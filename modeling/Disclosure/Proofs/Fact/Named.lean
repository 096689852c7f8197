import Disclosure.Fact.Store
import Disclosure.Proofs.Grouping

/-!
# Facts by name

The index of a store groups the positions of its facts by name. So the facts of a name are those
that a search through the whole store finds (`named_ofList`), however the store was filled
(`named_eq_scan`).
-/

namespace Disclosure

/-- Facts with their positions in a list. -/
def Placed.ofFacts (facts : List Fact) : List Placed :=
  facts.mapIdx fun i f => ⟨i, f⟩

namespace Placed

@[simp] lemma ofFacts_concat (facts : List Fact) (f : Fact) :
    ofFacts (facts ++ [f]) = ofFacts facts ++ [⟨facts.length, f⟩] := by
  simp [ofFacts]

lemma mem_ofFacts {facts : List Fact} {f : Placed} :
    f ∈ ofFacts facts ↔ facts[f.position]? = some f.fact := by
  rw [ofFacts, List.mem_mapIdx, List.getElem?_eq_some_iff]
  constructor
  · rintro ⟨i, hi, rfl⟩
    exact ⟨hi, rfl⟩
  · rintro ⟨hi, hf⟩
    exact ⟨f.position, hi, by rw [hf]⟩

lemma map_fact_ofFacts (facts : List Fact) : (ofFacts facts).map (·.fact) = facts := by
  apply List.ext_getElem <;> simp [ofFacts]

/-- Whether facts stand in the order of their positions. -/
def Increasing (fs : List Placed) : Prop :=
  fs.Pairwise fun f g => f.position < g.position

lemma increasing_ofFacts (facts : List Fact) : Increasing (ofFacts facts) := by
  rw [Increasing, List.pairwise_iff_getElem]
  intro i j hi hj hij
  simpa [ofFacts] using hij

end Placed

namespace FactStore

/-- Positions by name. -/
def positions : Grouping Placed (String × List Nat) String where
  cls f := f.fact.name
  key := Prod.fst
  new f := (f.fact.name, [f.position])
  change f e := (e.1, e.2 ++ [f.position])
  key_new _ := rfl
  key_change _ _ := rfl

lemma addPosition_eq (f : Placed) (index : List (String × List Nat)) :
    addPosition f.fact.name f.position index = positions.add f index := by
  induction index with
  | nil => rfl
  | cons e index ih =>
    obtain ⟨n, ps⟩ := e
    simp only [addPosition, Grouping.add, ih]
    rfl

lemma ofList_concat (facts : List Fact) (f : Fact) :
    ofList (facts ++ [f]) = (ofList facts).push f := by
  simp [ofList]

lemma facts_ofList (facts : List Fact) : (ofList facts).facts = facts := by
  induction facts using List.reverseRecOn with
  | nil => rfl
  | append_singleton facts f ih => rw [ofList_concat, push, ih]

lemma index_ofList (facts : List Fact) :
    (ofList facts).index = positions.groups (Placed.ofFacts facts) := by
  induction facts using List.reverseRecOn with
  | nil => rfl
  | append_singleton facts f ih =>
    rw [ofList_concat, Placed.ofFacts_concat, Grouping.groups_concat, ← ih, push, facts_ofList,
      ← addPosition_eq]

lemma merged_positions {name : String} {fs : List Placed} (h : ∀ f ∈ fs, f.fact.name = name) :
    (positions.merged fs).map Prod.snd = if fs = [] then none else some (fs.map (·.position)) := by
  induction fs using List.reverseRecOn with
  | nil => rfl
  | append_singleton fs f ih =>
    have ih := ih fun f' hf' => h f' (List.mem_append_left _ hf')
    rw [Grouping.merged_concat]
    cases hm : positions.merged fs with
    | none =>
      rw [Grouping.merged_eq_none_iff] at hm
      simp [hm, positions]
    | some e =>
      have hne : fs ≠ [] := fun h => by simp [h] at hm
      rw [hm, if_neg hne, Option.map_some, Option.some.injEq] at ih
      simp [positions, ih]

lemma filterMap_placed? {s : FactStore} {fs : List Placed}
    (h : ∀ f ∈ fs, s.facts[f.position]? = some f.fact) :
    (fs.map (·.position)).filterMap s.placed? = fs := by
  induction fs with
  | nil => rfl
  | cons f fs ih =>
    have hf : s.placed? f.position = some f := by
      rw [placed?, h f List.mem_cons_self, Option.map_some]
    rw [List.map_cons, List.filterMap_cons_some hf,
      ih fun f' hf' => h f' (List.mem_cons_of_mem _ hf')]

/-- The index has the positions of the facts of every name that occurs. -/
lemma lookup_index_ofList (facts : List Fact) (name : String) :
    (ofList facts).index.lookup name =
      if (Placed.ofFacts facts).filter (·.fact.name = name) = [] then none
      else some (((Placed.ofFacts facts).filter (·.fact.name = name)).map (·.position)) := by
  have hlookup : (ofList facts).index.lookup name =
      (positions.merged ((Placed.ofFacts facts).filter (·.fact.name = name))).map Prod.snd := by
    rw [index_ofList]
    exact Grouping.lookup_groups rfl _ name
  rw [hlookup, merged_positions Grouping.eq_of_mem_filter]

/-- The index finds the facts of a name, in order. -/
lemma named_ofList (facts : List Fact) (name : String) :
    (ofList facts).named name = (Placed.ofFacts facts).filter (·.fact.name = name) := by
  have hplaced : ∀ f ∈ (Placed.ofFacts facts).filter (·.fact.name = name),
      (ofList facts).facts[f.position]? = some f.fact := by
    intro f hf
    rw [facts_ofList]
    exact Placed.mem_ofFacts.1 (List.mem_filter.1 hf).1
  rw [named, lookup_index_ofList]
  split_ifs with hnil
  · simp [hnil]
  · exact filterMap_placed? hplaced

lemma mem_index_iff_lookup {facts : List Fact} {e : String × List Nat} :
    e ∈ (ofList facts).index ↔ (ofList facts).index.lookup e.1 = some e.2 := by
  rw [index_ofList]
  exact Grouping.mem_groups_iff_lookup rfl

/-- What a position in the index points at is a fact of the name it stands under. -/
lemma getElem?_of_mem_index {facts : List Fact} {e : String × List Nat} {position : Nat}
    (he : e ∈ (ofList facts).index) (hposition : position ∈ e.2) :
    ∃ f, facts[position]? = some f ∧ f.name = e.1 := by
  rw [mem_index_iff_lookup, lookup_index_ofList] at he
  split_ifs at he
  rw [← Option.some.inj he] at hposition
  obtain ⟨f, hf, rfl⟩ := List.mem_map.1 hposition
  obtain ⟨hmem, hname⟩ := List.mem_filter.1 hf
  exact ⟨f.fact, Placed.mem_ofFacts.1 hmem, of_decide_eq_true hname⟩

/-- The store with facts collected into it and others pushed to it one after the other. -/
def filled (collected pushed : List Fact) : FactStore :=
  pushed.foldl push (ofList collected)

lemma filled_eq (collected pushed : List Fact) :
    filled collected pushed = ofList (collected ++ pushed) := by
  rw [filled, ofList, ofList, List.foldl_append]

/--
However a store was filled, the facts found by a name are those that a scan finds, each at its
position and in order, whatever their namespaces. All positions in the index are those of facts.
-/
theorem named_eq_scan (collected pushed : List Fact) :
    (filled collected pushed).facts = collected ++ pushed ∧
      (∀ name, (filled collected pushed).named name =
        (Placed.ofFacts (collected ++ pushed)).filter (·.fact.concept.name = name)) ∧
      (∀ name, ((filled collected pushed).named name).map (·.fact) =
        (collected ++ pushed).filter (·.concept.name = name)) ∧
      ∀ e ∈ (filled collected pushed).index, ∀ position ∈ e.2,
        ∃ f, (collected ++ pushed)[position]? = some f ∧ f.concept.name = e.1 := by
  rw [filled_eq]
  refine ⟨facts_ofList _, named_ofList _, fun name => ?_, fun e he position hposition =>
    getElem?_of_mem_index he hposition⟩
  conv_rhs => rw [← Placed.map_fact_ofFacts (collected ++ pushed), List.filter_map]
  rw [named_ofList]
  rfl

/-- A fact with a text, and with nothing else. -/
def bareFact (ns name value : String) : Fact where
  concept := ⟨ns, name⟩
  value := .text value
  context := none
  unit := none
  precision := .exact
  state := .unvalidated

/-- Assets in two namespaces, with debts between them, and the first assets reported again. -/
def mixedStore : FactStore :=
  filled [bareFact "us-gaap" "Assets" "1", bareFact "us-gaap" "Debts" "2"]
    [bareFact "ifrs-full" "Assets" "3", bareFact "us-gaap" "Assets" "1"]

theorem named_eq_scan_mixed :
    ("Assets", [0, 2, 3]) ∈ mixedStore.index ∧ 2 ∈ [0, 2, 3] ∧
      (∃ f, mixedStore.facts[2]? = some f ∧ f.concept.name = "Assets") ∧
      (mixedStore.named "Assets").map (·.fact) =
        [bareFact "us-gaap" "Assets" "1", bareFact "ifrs-full" "Assets" "3",
          bareFact "us-gaap" "Assets" "1"] := by
  obtain ⟨hfacts, -, hnamed, hindex⟩ :=
    named_eq_scan [bareFact "us-gaap" "Assets" "1", bareFact "us-gaap" "Debts" "2"]
      [bareFact "ifrs-full" "Assets" "3", bareFact "us-gaap" "Assets" "1"]
  have hmem : ("Assets", [0, 2, 3]) ∈ mixedStore.index := by decide
  obtain ⟨f, hf, hname⟩ := hindex _ hmem 2 (by decide)
  exact ⟨hmem, by decide, ⟨f, hfacts ▸ hf, hname⟩, (hnamed "Assets").trans (by decide)⟩

end FactStore

end Disclosure
