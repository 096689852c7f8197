import Disclosure.Proofs.Fact.Accounting

/-!
# The fact held for a class

The admitted facts that share a key, a name and a covered part form a class (`Policy.InClass`).
Whatever the order in which classes are interleaved, and however often a name is asked for, the
fact held for a class is its representative (`Represents`): of the facts with a value the first of
the most precise ones, or the first fact if none has a value.
-/

namespace Disclosure

/-! ### Order -/

namespace Precision

/-- Precisions by their numbers of places, with an exact value above all numbers. -/
def AtMost : Precision → Precision → Prop
  | _, .exact => True
  | .exact, .places _ => False
  | .places m, .places n => m ≤ n

lemma lt_iff_not_atMost {a b : Precision} : a.lt b ↔ ¬ b.AtMost a := by
  cases a <;> cases b <;> simp [lt, AtMost]

lemma atMost_refl (a : Precision) : a.AtMost a := by
  cases a <;> simp [AtMost]

lemma atMost_trans {a b c : Precision} (hab : a.AtMost b) (hbc : b.AtMost c) : a.AtMost c := by
  cases c with
  | exact => cases a <;> trivial
  | places n =>
    cases b with
    | exact => cases hbc
    | places m =>
      cases a with
      | exact => cases hab
      | places k => exact Int.le_trans hab hbc

lemma atMost_antisymm {a b : Precision} (hab : a.AtMost b) (hba : b.AtMost a) : a = b := by
  cases a with
  | exact =>
    cases b with
    | exact => rfl
    | places n => cases hab
  | places m =>
    cases b with
    | exact => cases hba
    | places n => rw [Int.le_antisymm hab hba]

lemma atMost_total (a b : Precision) : a.AtMost b ∨ b.AtMost a := by
  cases a with
  | exact => cases b <;> simp [AtMost]
  | places m =>
    cases b with
    | exact => exact .inl trivial
    | places n => exact Int.le_total m n

end Precision

namespace Fact

/-- Whether a fact takes the place of another, in terms of the order of precisions. -/
lemma displaces_iff {f g : Fact} :
    f.displaces g ↔ ¬ f.isNil ∧ (g.isNil ∨ ¬ f.precision.AtMost g.precision) := by
  simp [displaces, Precision.lt_iff_not_atMost]

lemma not_displaces_self (f : Fact) : ¬ f.displaces f := by
  rw [displaces_iff]
  rintro ⟨hnil, h | h⟩
  · exact hnil h
  · exact h (Precision.atMost_refl _)

lemma displaces_asymm {f g : Fact} (h : f.displaces g) : ¬ g.displaces f := by
  rw [displaces_iff] at *
  rintro ⟨hg, hf | hgf⟩
  · exact h.1 hf
  · obtain hg' | hfg := h.2
    · exact hg hg'
    · exact (Precision.atMost_total _ _).elim hfg hgf

/-- What displaces a fact displaces all that does not displace this fact. -/
lemma displaces_of_not_displaces {f g h : Fact} (hfg : f.displaces g) (hhg : ¬ h.displaces g) :
    f.displaces h := by
  rw [displaces_iff] at *
  refine ⟨hfg.1, ?_⟩
  by_cases hnil : h.isNil
  · exact .inl hnil
  · simp only [hnil, Bool.false_eq_true, not_false_eq_true, true_and, not_or, not_not] at hhg
    obtain ⟨hg, hle⟩ := hhg
    obtain hg' | hlt := hfg.2
    · exact absurd hg' hg
    · right
      intro hfh
      exact hlt (Precision.atMost_trans hfh hle)

end Fact

namespace Placed

/-! ### The best of a list -/

/-- A fact that nothing displaces, and that displaces what stands before it. -/
structure Leads (fs : List Placed) (r : Placed) : Prop where
  mem : r ∈ fs
  not_displaced : ∀ f ∈ fs, ¬ f.fact.displaces r.fact
  displaces : ∀ f ∈ fs, f.position < r.position → r.fact.displaces f.fact

lemma leads_singleton (r : Placed) : Leads [r] r where
  mem := List.mem_singleton_self r
  not_displaced := by simpa using r.fact.not_displaces_self
  displaces := by simp

namespace Leads

variable {fs : List Placed} {held g : Placed}

/-- A fact that takes the place of the leading one leads. -/
lemma concat_of_displaces (h : Leads fs held) (hg : g.fact.displaces held.fact) :
    Leads (fs ++ [g]) g where
  mem := by simp
  not_displaced f hf := by
    rcases List.mem_append.1 hf with hf | hf
    · -- what displaced the new fact would have displaced the one held
      exact Fact.displaces_asymm (Fact.displaces_of_not_displaces hg (h.not_displaced f hf))
    · rw [List.mem_singleton.1 hf]
      exact g.fact.not_displaces_self
  displaces f hf hlt := by
    rcases List.mem_append.1 hf with hf | hf
    · exact Fact.displaces_of_not_displaces hg (h.not_displaced f hf)
    · rw [List.mem_singleton.1 hf] at hlt
      exact absurd hlt (Nat.lt_irrefl _)

/-- The leading fact leads on if a later one does not take its place. -/
lemma concat_of_not_displaces (h : Leads fs held) (hg : ¬ g.fact.displaces held.fact)
    (hlater : held.position < g.position) : Leads (fs ++ [g]) held where
  mem := List.mem_append_left _ h.mem
  not_displaced f hf := by
    rcases List.mem_append.1 hf with hf | hf
    · exact h.not_displaced f hf
    · rwa [List.mem_singleton.1 hf]
  displaces f hf hlt := by
    rcases List.mem_append.1 hf with hf | hf
    · exact h.displaces f hf hlt
    · rw [List.mem_singleton.1 hf] at hlt
      exact absurd hlt (Nat.lt_asymm hlater)

end Leads

lemma leads_of_best {fs : List Placed} {r : Placed} (hinc : Increasing fs)
    (h : best fs = some r) : Leads fs r := by
  induction fs using List.reverseRecOn generalizing r with
  | nil => simp [best] at h
  | append_singleton fs g ih =>
    rw [Increasing, List.pairwise_append] at hinc
    obtain ⟨hinc, -, hlater⟩ := hinc
    rw [best_concat, Option.some.injEq] at h
    cases hfs : best fs with
    | none =>
      rw [best_eq_none_iff] at hfs
      subst hfs
      obtain rfl : g = r := by simpa [best] using h
      exact leads_singleton g
    | some held =>
      have hheld := ih hinc hfs
      rw [hfs, Option.elim_some, better] at h
      split_ifs at h with hg
      · subst h
        exact hheld.concat_of_displaces hg
      · subst h
        exact hheld.concat_of_not_displaces hg (hlater held hheld.mem g (by simp))

lemma foldl_better {r : Placed} {fs : List Placed} (h : ∀ f ∈ fs, ¬ f.fact.displaces r.fact) :
    fs.foldl better r = r := by
  induction fs with
  | nil => rfl
  | cons f fs ih =>
    rw [List.foldl_cons, better, if_neg (h f List.mem_cons_self)]
    exact ih fun g hg => h g (List.mem_cons_of_mem f hg)

/-- Facts that are offered again change nothing. -/
lemma best_append_of_subset {fs gs : List Placed} (hinc : Increasing fs) (h : gs ⊆ fs) :
    best (fs ++ gs) = best fs := by
  cases fs with
  | nil => rw [List.subset_nil.1 h, List.append_nil]
  | cons f fs =>
    have hlead := leads_of_best hinc (r := fs.foldl better f) rfl
    rw [List.cons_append, best, best, List.foldl_append,
      foldl_better fun g hg => hlead.not_displaced g (h hg)]

/-- A list that is gone through once for every occurrence of a name. -/
lemma best_flatMap {fs : List Placed} (hinc : Increasing fs) (name : String)
    (names : List String) :
    best (names.flatMap fun n => if n = name then fs else []) =
      if name ∈ names then best fs else none := by
  induction names with
  | nil => rfl
  | cons n names ih =>
    by_cases hn : n = name
    · have hsub : (names.flatMap fun n => if n = name then fs else []) ⊆ fs := by
        intro f hf
        obtain ⟨m, _, hm⟩ := List.mem_flatMap.1 hf
        split_ifs at hm
        · exact hm
        · exact absurd hm List.not_mem_nil
      rw [List.flatMap_cons, if_pos hn, best_append_of_subset hinc hsub, if_pos (by simp [hn])]
    · rw [List.flatMap_cons, if_neg hn, List.nil_append, ih]
      simp [Ne.symm hn]

end Placed

/-! ### Classes -/

namespace Policy

variable {p : Policy} {a : Alignment} {facts : List Fact} {names : List String}
  {key : BindingKey} {name : String} {part : Option CoveredPart}

/-- The admitted facts of a requested name that share a key and a covered part. -/
def InClass (p : Policy) (a : Alignment) (facts : List Fact) (names : List String)
    (key : BindingKey) (name : String) (part : Option CoveredPart) (f : Placed) : Prop :=
  facts[f.position]? = some f.fact ∧ f.fact.name = name ∧ name ∈ names ∧
    ∃ c, p.admitted? f.fact = some c ∧ a.keys p c f.fact.unit = (key, part)

/-- Whether a fact is bound under a key and a part. -/
def fits (p : Policy) (a : Alignment) (key : BindingKey) (part : Option CoveredPart)
    (f : Placed) : Bool :=
  (p.offer? a f).any fun o => o.key = key ∧ o.part = part

lemma fits_iff {f : Placed} : p.fits a key part f ↔
    ∃ c, p.admitted? f.fact = some c ∧ a.keys p c f.fact.unit = (key, part) := by
  rw [fits, offer?, Option.any_map]
  cases p.admitted? f.fact <;> simp [Prod.ext_iff]

lemma facts_of_offers (fs : List Placed) :
    ((fs.filterMap (p.offer? a)).filter
        fun o => o.key = key ∧ o.name = name ∧ o.part = part).map (·.fact) =
      fs.filter fun f => f.fact.name = name ∧ p.fits a key part f := by
  induction fs with
  | nil => rfl
  | cons f fs ih =>
    cases ho : p.offer? a f with
    | none =>
      rw [List.filterMap_cons_none ho, ih, List.filter_cons_of_neg (by simp [fits, ho])]
    | some o =>
      have hfact := fact_of_offer? ho
      have hiff : (o.key = key ∧ o.name = name ∧ o.part = part) ↔
          f.fact.name = name ∧ p.fits a key part f := by
        simp [fits, ho, Offer.name, hfact, and_left_comm]
      rw [List.filterMap_cons_some ho]
      by_cases h : f.fact.name = name ∧ p.fits a key part f
      · rw [List.filter_cons_of_pos (by simpa using hiff.2 h),
          List.filter_cons_of_pos (by simpa using h), List.map_cons, ih, hfact]
      · rw [List.filter_cons_of_neg (by simpa using mt hiff.1 h),
          List.filter_cons_of_neg (by simpa using h), ih]

/-- The facts of a class, in order. -/
def classFacts (p : Policy) (a : Alignment) (facts : List Fact) (key : BindingKey) (name : String)
    (part : Option CoveredPart) : List Placed :=
  (Placed.ofFacts facts).filter fun f => f.fact.name = name ∧ p.fits a key part f

lemma mem_classFacts (hname : name ∈ names) {f : Placed} :
    f ∈ p.classFacts a facts key name part ↔ p.InClass a facts names key name part f := by
  simp only [classFacts, List.mem_filter, Placed.mem_ofFacts, decide_eq_true_eq, fits_iff, InClass]
  exact ⟨fun h => ⟨h.1, h.2.1, hname, h.2.2⟩, fun h => ⟨h.1, h.2.1, h.2.2.2⟩⟩

lemma filter_walk :
    ((walk facts names).filter fun f => f.fact.name = name ∧ p.fits a key part f) =
      names.flatMap fun n => if n = name then p.classFacts a facts key name part else [] := by
  rw [walk, List.filter_flatMap]
  refine List.flatMap_congr fun n _ => ?_
  rw [List.filter_filter]
  split_ifs with hn
  · refine List.filter_congr fun f _ => ?_
    simp +contextual [hn]
  · rw [List.filter_eq_nil_iff]
    intro f _ hf
    simp only [Bool.and_eq_true, decide_eq_true_eq] at hf
    exact hn (hf.2.symm.trans hf.1.1)

lemma increasing_classFacts : Placed.Increasing (p.classFacts a facts key name part) :=
  List.Pairwise.filter _ (Placed.increasing_ofFacts facts)

/-- What binding holds is the best fact of the class. -/
lemma held?_offers :
    (Bindings.ofOffers (p.offers a facts names)).held? key name part =
      if name ∈ names then Placed.best (p.classFacts a facts key name part) else none := by
  rw [offers, Bindings.held?_ofOffers isSome_part_of_mem, facts_of_offers, filter_walk,
    Placed.best_flatMap increasing_classFacts]

end Policy

/-! ### Representatives -/

/--
The facts of a class that come before all others in precision: of a class in which some fact has a
value, the most precise facts with a value.
-/
def Finest (C : Placed → Prop) (f : Placed) : Prop :=
  C f ∧ if f.fact.isNil then ∀ g, C g → g.fact.isNil
    else ∀ g, C g → ¬ g.fact.isNil → g.fact.precision.AtMost f.fact.precision

/-- The first of the finest facts of a class. -/
def Represents (C : Placed → Prop) (r : Placed) : Prop :=
  Finest C r ∧ ∀ f, Finest C f → r.position ≤ f.position

section Class

variable {fs : List Placed} {r : Placed}

lemma finest_iff {f : Placed} :
    Finest (· ∈ fs) f ↔ f ∈ fs ∧ ∀ g ∈ fs, ¬ g.fact.displaces f.fact := by
  refine and_congr_right fun _ => ?_
  split_ifs with hnil
  · refine forall₂_congr fun g _ => ?_
    simp [Fact.displaces_iff, hnil]
  · refine forall₂_congr fun g _ => ?_
    simp [Fact.displaces_iff, hnil]

lemma represents_of_leads (h : Placed.Leads fs r) : Represents (· ∈ fs) r := by
  refine ⟨finest_iff.2 ⟨h.mem, h.not_displaced⟩, fun f hf => ?_⟩
  obtain ⟨hf, hnot⟩ := finest_iff.1 hf
  by_contra hlt
  exact hnot r h.mem (h.displaces f hf (Nat.not_le.1 hlt))

/-- Positions tell the facts of a list apart, so there is one representative. -/
lemma represents_iff_best (hinc : Placed.Increasing fs) :
    Represents (· ∈ fs) r ↔ Placed.best fs = some r := by
  constructor
  · intro hr
    cases hbest : Placed.best fs with
    | none =>
      rw [Placed.best_eq_none_iff] at hbest
      exact absurd hr.1.1 (by simp [hbest])
    | some s =>
      have hs := represents_of_leads (Placed.leads_of_best hinc hbest)
      have hpos : s.position = r.position :=
        Nat.le_antisymm (hs.2 r hr.1) (hr.2 s hs.1)
      have hnodup : (fs.map (·.position)).Nodup :=
        List.pairwise_map.2 (List.Pairwise.imp Nat.ne_of_lt hinc)
      rw [List.inj_on_of_nodup_map hnodup hs.1.1 hr.1.1 hpos]
  · intro hbest
    exact represents_of_leads (Placed.leads_of_best hinc hbest)

end Class

/--
Binding holds for every class its representative, and holds nothing for a class without facts.
-/
theorem bind_represents {p : Policy} {a : Alignment} (h : p.alignment = .ok a)
    (facts : List Fact) (names : List String) :
    ∃ bs, (FactStore.ofList facts).bind names p = .ok bs ∧
      ∀ (key : BindingKey) (name : String) (part : Option CoveredPart),
        (∀ r, bs.held? key name part = some r ↔
          Represents (p.InClass a facts names key name part) r) ∧
        (bs.held? key name part = none ↔ ∀ f, ¬ p.InClass a facts names key name part f) := by
  refine ⟨_, FactStore.bind_ofList h facts names, fun key name part => ?_⟩
  rw [Policy.held?_offers]
  by_cases hname : name ∈ names
  · have hclass : p.InClass a facts names key name part =
        (· ∈ p.classFacts a facts key name part) := by
      funext f
      exact propext (Policy.mem_classFacts hname).symm
    rw [if_pos hname, hclass]
    refine ⟨fun r => (represents_iff_best Policy.increasing_classFacts).symm, ?_⟩
    rw [Placed.best_eq_none_iff, List.eq_nil_iff_forall_not_mem]
  · have hclass : ∀ f, ¬ p.InClass a facts names key name part f := fun f hf => hname hf.2.2.1
    rw [if_neg hname]
    refine ⟨fun r => ?_, ?_⟩
    · simp only [reduceCtorEq, false_iff]
      exact fun hr => hclass r hr.1.1
    · simpa using hclass

theorem bind_represents_assets :
    Policy.alignment { includeNils := true } = .ok .full ∧
    ∃ bs,
      (FactStore.ofList sampleFacts).bind ["Assets", "Assets"] { includeNils := true } = .ok bs ∧
      ∀ (key : BindingKey) (name : String) (part : Option CoveredPart),
        (∀ r, bs.held? key name part = some r ↔
          Represents (Policy.InClass { includeNils := true } .full sampleFacts ["Assets", "Assets"]
            key name part) r) ∧
        (bs.held? key name part = none ↔
          ∀ f, ¬ Policy.InClass { includeNils := true } .full sampleFacts ["Assets", "Assets"]
            key name part f) :=
  ⟨rfl, bind_represents rfl sampleFacts ["Assets", "Assets"]⟩

/-- The assets of the first day: the fact without a value and the less precise one give way. -/
example :
    ((FactStore.ofList sampleFacts).bind ["Assets", "Assets"] { includeNils := true }).toOption.bind
      (fun bs => (bs.held? ⟨some firstDay, [], some "USD"⟩ "Assets" none).map
        (·.position)) = some 4 := by
  decide

end Disclosure
