import Disclosure.Proofs.Fact.Moved
import Disclosure.Proofs.Fact.Offers

/-!
# Admission

Whether a policy admits a fact depends on the fact alone (`Policy.Admits`). So admission comes
before everything else: binding under a policy is binding the admitted facts under the policy that
keeps the alignment and drops all demands on facts (`bind_eq_bind_admitted`). A fact that is not
admitted leaves no trace.
-/

namespace Disclosure

/-! ### Demands on a fact -/

namespace Policy

/-- Whether dimensions meet the demands of a policy. -/
structure AdmitsDims (p : Policy) (dims : List Dimension) : Prop where
  /-- Where additional dimensions are excluded, all axes are covered ones. -/
  covered : p.noAdditionalDimensions → ∀ d ∈ dims, d.axis ∈ p.coverDimensions
  present : ∀ d ∈ dims, d.axis.name ∉ p.absentDimensionNames
  /-- Every member is a concept that is reached from the root. -/
  within : ∀ w, p.within = some w → ∀ d ∈ dims,
    ∃ m, d.member = .explicit m ∧ w.graph.reaches w.root m w.role

/-- Whether a fact meets the demands of a policy. -/
structure Admits (p : Policy) (f : Fact) : Prop where
  valid : f.state.isValid
  value : p.includeNils ∨ f.value ≠ .nil
  filter : ∀ q, p.filter = some q → q f
  context : ∃ c, f.context = some c ∧ p.AdmitsDims c.dims

/-- The policy with the same alignment that admits all checked facts with a context. -/
def unrestricted (p : Policy) : Policy :=
  { p with
    includeNils := true
    filter := none
    noAdditionalDimensions := false
    absentDimensionNames := []
    within := none }

variable {p : Policy} {a : Alignment} {f : Fact}

lemma memberWithin_iff {w : Within} {m : Member} :
    memberWithin w m ↔ ∃ c, m = .explicit c ∧ w.graph.reaches w.root c w.role := by
  cases m <;> simp [memberWithin]

lemma admitsDimensions_iff {dims : List Dimension} :
    p.admitsDimensions dims ↔ p.AdmitsDims dims := by
  have hcovered : (!p.noAdditionalDimensions || dims.all (p.coverDimensions.contains ·.axis)) ↔
      (p.noAdditionalDimensions → ∀ d ∈ dims, d.axis ∈ p.coverDimensions) := by
    cases p.noAdditionalDimensions <;> simp
  have hwithin : (p.within.all fun w => dims.all (memberWithin w ·.member)) ↔
      ∀ w, p.within = some w → ∀ d ∈ dims,
        ∃ m, d.member = .explicit m ∧ w.graph.reaches w.root m w.role := by
    cases p.within <;> simp [memberWithin_iff]
  rw [admitsDimensions, Bool.and_eq_true, Bool.and_eq_true, hcovered, hwithin]
  constructor
  · rintro ⟨⟨hcovered, hpresent⟩, hwithin⟩
    exact ⟨hcovered, by simpa using hpresent, hwithin⟩
  · rintro ⟨hcovered, hpresent, hwithin⟩
    exact ⟨⟨hcovered, by simpa using hpresent⟩, hwithin⟩

lemma admitsFact_iff : p.admitsFact f ↔
    f.state.isValid ∧ (p.includeNils ∨ f.value ≠ .nil) ∧ ∀ q, p.filter = some q → q f := by
  have hfilter : p.filter.all (· f) ↔ ∀ q, p.filter = some q → q f := by
    cases p.filter <;> simp
  rw [admitsFact, Bool.and_eq_true, Bool.and_eq_true, hfilter, and_assoc]
  simp [Fact.isNil]

lemma admits_iff : p.Admits f ↔ (p.admitted? f).isSome := by
  rw [admitted?]
  constructor
  · rintro ⟨hvalid, hvalue, hfilter, c, hc, hdims⟩
    rw [if_pos (admitsFact_iff.2 ⟨hvalid, hvalue, hfilter⟩), hc]
    simp [Option.filter, admitsDimensions_iff.2 hdims]
  · intro h
    split_ifs at h with hfact
    · obtain ⟨hvalid, hvalue, hfilter⟩ := admitsFact_iff.1 hfact
      obtain ⟨c, hc⟩ := Option.isSome_iff_exists.1 h
      obtain ⟨hcontext, hdims⟩ := Option.filter_eq_some_iff.1 hc
      exact ⟨hvalid, hvalue, hfilter, c, hcontext, admitsDimensions_iff.1 hdims⟩
    · cases h

instance (p : Policy) : DecidablePred p.Admits :=
  fun _ => decidable_of_iff _ admits_iff.symm

lemma Admits.admitted?_eq (h : p.Admits f) : p.admitted? f = f.context := by
  obtain ⟨c, hc⟩ := Option.isSome_iff_exists.1 (admits_iff.1 h)
  have hcontext : f.context = some c := by
    rw [admitted?] at hc
    split_ifs at hc
    exact Option.eq_some_of_filter_eq_some hc
  rw [hc, hcontext]

lemma Admits.unrestricted (h : p.Admits f) : p.unrestricted.Admits f := by
  obtain ⟨hvalid, -, -, c, hc, -⟩ := h
  refine ⟨hvalid, .inl rfl, fun q hq => ?_, c, hc, fun hno => ?_, fun d _ => ?_, fun w hw => ?_⟩
  · cases hq
  · cases hno
  · exact List.not_mem_nil
  · cases hw

end Policy

/-! ### Admitted facts -/

namespace Placed

/-- The position of the fact that stands at some place of a list. -/
def positionAt (fs : List Placed) (i : Nat) : Nat :=
  (fs[i]?).elim i (·.position)

/-- Facts that are numbered anew, moved back. -/
lemma map_moved_ofFacts (fs : List Placed) :
    (ofFacts (fs.map (·.fact))).map (·.moved (positionAt fs)) = fs := by
  apply List.ext_getElem
  · simp [ofFacts]
  · intro i hi hi'
    simp [ofFacts, moved, positionAt, List.getElem?_eq_getElem hi']

end Placed

namespace Policy

variable {p : Policy} {a : Alignment} {facts : List Fact} {names : List String}

/-- The admitted facts with their positions, in order. -/
def admittedFacts (p : Policy) (facts : List Fact) : List Placed :=
  (Placed.ofFacts facts).filter (p.Admits ·.fact)

lemma map_fact_admittedFacts :
    (p.admittedFacts facts).map (·.fact) = facts.filter (p.Admits ·) := by
  conv_rhs => rw [← Placed.map_fact_ofFacts facts, List.filter_map]
  rfl

/-- The position among all facts of the admitted fact with a number. -/
def admittedAt (p : Policy) (facts : List Fact) (i : Nat) : Nat :=
  Placed.positionAt (p.admittedFacts facts) i

lemma getElem?_admittedAt {i : Nat} {f : Fact} (h : (facts.filter (p.Admits ·))[i]? = some f) :
    facts[p.admittedAt facts i]? = some f := by
  rw [← map_fact_admittedFacts, List.getElem?_map, Option.map_eq_some_iff] at h
  obtain ⟨g, hg, rfl⟩ := h
  have hat : p.admittedAt facts i = g.position := by
    rw [admittedAt, Placed.positionAt, hg, Option.elim_some]
  rw [hat, ← Placed.mem_ofFacts]
  exact List.mem_of_mem_filter (List.mem_of_getElem? hg)

lemma admittedAt_lt {i j : Nat} (hij : i < j) (hj : j < (facts.filter (p.Admits ·)).length) :
    p.admittedAt facts i < p.admittedAt facts j := by
  rw [← map_fact_admittedFacts, List.length_map] at hj
  have hi : i < (p.admittedFacts facts).length := Nat.lt_trans hij hj
  have hinc : Placed.Increasing (p.admittedFacts facts) :=
    List.Pairwise.filter _ (Placed.increasing_ofFacts facts)
  have hlt := List.pairwise_iff_getElem.1 hinc i j hi hj hij
  simpa [admittedAt, Placed.positionAt, hi, hj] using hlt

lemma map_moved_ofFacts_filter :
    (Placed.ofFacts (facts.filter (p.Admits ·))).map (·.moved (p.admittedAt facts)) =
      p.admittedFacts facts := by
  rw [← map_fact_admittedFacts]
  exact Placed.map_moved_ofFacts _

/-- A walk through the admitted facts passes the admitted facts of the walk. -/
lemma map_moved_walk :
    (walk (facts.filter (p.Admits ·)) names).map (·.moved (p.admittedAt facts)) =
      (walk facts names).filter (p.Admits ·.fact) := by
  rw [walk, walk, List.map_flatMap, List.filter_flatMap]
  refine List.flatMap_congr fun name _ => ?_
  have hmap : ((Placed.ofFacts (facts.filter (p.Admits ·))).filter (·.fact.name = name)).map
        (·.moved (p.admittedAt facts)) =
      ((Placed.ofFacts (facts.filter (p.Admits ·))).map (·.moved (p.admittedAt facts))).filter
        (·.fact.name = name) := by
    rw [List.filter_map]
    rfl
  rw [hmap, map_moved_ofFacts_filter, admittedFacts, List.filter_comm]

end Policy

/-! ### Binding -/

namespace FactStore

variable {p : Policy} {a : Alignment}

/-- Facts that are not admitted are passed over, and the others are bound without the demands. -/
lemma bindFact_eq (bs : Bindings) (f : Placed) : bindFact p a bs f =
    if p.Admits f.fact then bindFact p.unrestricted a bs f else bs := by
  split_ifs with h
  · rw [bindFact, bindFact, h.admitted?_eq, h.unrestricted.admitted?_eq]
    rfl
  · have hnone : p.admitted? f.fact = none := by
      rw [← Option.not_isSome_iff_eq_none, ← Policy.admits_iff]
      exact h
    rw [bindFact, hnone]

lemma foldl_bindFact_eq (fs : List Placed) (bs : Bindings) : fs.foldl (bindFact p a) bs =
    (fs.filter (p.Admits ·.fact)).foldl (bindFact p.unrestricted a) bs := by
  induction fs generalizing bs with
  | nil => rfl
  | cons f fs ih =>
    rw [List.foldl_cons, bindFact_eq, List.filter_cons]
    by_cases h : p.Admits f.fact
    · simp [h, ih]
    · simp [h, ih]

end FactStore

/--
Admission is a filter in front: the bindings under a policy are those of the admitted facts under
the policy without demands, with each fact moved back to its own position. The admitted facts keep
their order there.
-/
theorem bind_eq_bind_admitted (p : Policy) (facts : List Fact) (names : List String) :
    (FactStore.ofList facts).bind names p =
        ((FactStore.ofList (facts.filter (p.Admits ·))).bind names p.unrestricted).map
          (·.moved (p.admittedAt facts)) ∧
      (∀ i f, (facts.filter (p.Admits ·))[i]? = some f →
        facts[p.admittedAt facts i]? = some f) ∧
      ∀ i j, i < j → j < (facts.filter (p.Admits ·)).length →
        p.admittedAt facts i < p.admittedAt facts j := by
  refine ⟨?bind, ?back, ?order⟩
  case bind =>
    have hrun : ∀ a, (Policy.walk facts names).foldl (FactStore.bindFact p a) .empty =
        ((Policy.walk (facts.filter (p.Admits ·)) names).foldl
          (FactStore.bindFact p.unrestricted a) .empty).moved (p.admittedAt facts) := by
      intro a
      rw [FactStore.moved_foldl_bindFact, Policy.map_moved_walk, FactStore.foldl_bindFact_eq]
      rfl
    rw [FactStore.bind_eq_foldl, FactStore.bind_eq_foldl,
      show p.unrestricted.alignment = p.alignment from rfl]
    cases p.alignment with
    | error e => rfl
    | ok a => exact congrArg Except.ok (hrun a)
  case back =>
    intro i f hf
    exact Policy.getElem?_admittedAt hf
  case order =>
    intro i j hij hj
    exact Policy.admittedAt_lt hij hj

end Disclosure
