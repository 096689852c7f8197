import Disclosure.Fact.Binding
import Disclosure.Proofs.Fact.Named

/-!
# Offers

A run of `bind` is a list of offers: the admitted facts in the order in which they are met, each
with its key and its covered part. Bindings, the slots of a binding and the facts of a slot are
three nested groupings of that list, by key, by name and by covered part; the index of the bindings
follows the first of them (`Bindings.Indexed`). What is held under a key, a name and a part is
therefore the best of the facts offered there (`held?_ofOffers`).
-/

namespace Disclosure

/-- An admitted fact with what it is bound under. -/
structure Offer where
  fact : Placed
  key : BindingKey
  part : Option CoveredPart

namespace Offer

/-- The name that a fact is bound under. -/
def name (o : Offer) : String :=
  o.fact.fact.name

/-- A fact under its covered part. -/
def entry? (o : Offer) : Option (CoveredPart × Placed) :=
  o.part.map (·, o.fact)

end Offer

namespace Policy

/-- What a fact is bound under, if the policy admits it. -/
def offer? (p : Policy) (a : Alignment) (f : Placed) : Option Offer :=
  (p.admitted? f.fact).map fun c =>
    ⟨f, (a.keys p c f.fact.unit).1, (a.keys p c f.fact.unit).2⟩

/-- The facts of the given names, in the order of the names and then of the facts. -/
def walk (facts : List Fact) (names : List String) : List Placed :=
  names.flatMap fun name => (Placed.ofFacts facts).filter (·.fact.name = name)

/-- The offers of a walk. -/
def offers (p : Policy) (a : Alignment) (facts : List Fact) (names : List String) : List Offer :=
  (walk facts names).filterMap (p.offer? a)

variable {p : Policy} {a : Alignment} {facts : List Fact} {names : List String}

lemma fact_of_offer? {f : Placed} {o : Offer} (h : p.offer? a f = some o) : o.fact = f := by
  obtain ⟨c, _, rfl⟩ := Option.map_eq_some_iff.1 h
  rfl

lemma mem_walk {f : Placed} :
    f ∈ walk facts names ↔ facts[f.position]? = some f.fact ∧ f.fact.name ∈ names := by
  simp [walk, Placed.mem_ofFacts, and_comm]

/-- Offers are the admitted facts of the given names. -/
lemma mem_offers {o : Offer} :
    o ∈ p.offers a facts names ↔
      facts[o.fact.position]? = some o.fact.fact ∧ o.name ∈ names ∧
        p.offer? a o.fact = some o := by
  rw [offers, List.mem_filterMap]
  constructor
  · rintro ⟨f, hf, ho⟩
    obtain rfl := fact_of_offer? ho
    obtain ⟨hplace, hname⟩ := mem_walk.1 hf
    exact ⟨hplace, hname, ho⟩
  · rintro ⟨hplace, hname, ho⟩
    exact ⟨o.fact, mem_walk.2 ⟨hplace, hname⟩, ho⟩

end Policy

/-! ### Parts -/

/-- Whether an alignment tells a covered part. -/
def Alignment.tellsPart : Alignment → Bool
  | .coverPeriod | .coverDimensions => true
  | .full | .axes _ _ => false

lemma Alignment.isSome_keys (a : Alignment) (p : Policy) (c : Context) (unit : Option String) :
    (a.keys p c unit).2.isSome = a.tellsPart := by
  cases a <;> rfl

lemma Policy.isSome_part {p : Policy} {a : Alignment} {f : Placed} {o : Offer}
    (h : p.offer? a f = some o) : o.part.isSome = a.tellsPart := by
  obtain ⟨c, _, rfl⟩ := Option.map_eq_some_iff.1 h
  exact a.isSome_keys p c f.fact.unit

/-! ### Slots -/

/-- The best of a list of facts, of equally good ones the first. -/
def Placed.best : List Placed → Option Placed
  | [] => none
  | f :: fs => some (fs.foldl Placed.better f)

namespace Placed

@[simp] lemma best_eq_none_iff {fs : List Placed} : best fs = none ↔ fs = [] := by
  cases fs <;> simp [best]

lemma best_concat (fs : List Placed) (f : Placed) :
    best (fs ++ [f]) = some ((best fs).elim f (·.better f)) := by
  cases fs <;> simp [best]

lemma mem_of_best {fs : List Placed} {f : Placed} (h : best fs = some f) : f ∈ fs := by
  induction fs using List.reverseRecOn generalizing f with
  | nil => simp [best] at h
  | append_singleton fs g ih =>
    rw [best_concat, Option.some.injEq] at h
    cases hfs : best fs with
    | none => simp_all
    | some held =>
      rw [hfs, Option.elim_some, better] at h
      split at h
      · simp [← h]
      · exact List.mem_append_left _ (ih (h ▸ hfs))

end Placed

namespace Slot

/-- The facts of a slot by their covered parts. -/
def byPart : Grouping (CoveredPart × Placed) (CoveredPart × Placed) CoveredPart where
  cls := Prod.fst
  key := Prod.fst
  new e := e
  change e held := (held.1, held.2.better e.2)
  key_new _ := rfl
  key_change _ _ := rfl

/-- The fact held without a part, or under a part. -/
def held? : Slot → Option CoveredPart → Option Placed
  | .single held, none => some held
  | .covered held, some part => held.lookup part
  | _, _ => none

lemma addUnder_eq (part : CoveredPart) (f : Placed) (held : List (CoveredPart × Placed)) :
    addUnder part f held = byPart.add (part, f) held := by
  induction held with
  | nil => rfl
  | cons e held ih =>
    obtain ⟨q, g⟩ := e
    simp only [addUnder, Grouping.add, ih]
    rfl

lemma merged_byPart {part : CoveredPart} {es : List (CoveredPart × Placed)}
    (h : ∀ e ∈ es, e.1 = part) :
    byPart.merged es = (Placed.best (es.map Prod.snd)).map (part, ·) := by
  induction es using List.reverseRecOn with
  | nil => rfl
  | append_singleton es e ih =>
    have he : e.1 = part := h e (by simp)
    have ih := ih fun e' he' => h e' (List.mem_append_left _ he')
    rw [Grouping.merged_concat, ih, List.map_append, List.map_singleton, Placed.best_concat]
    cases Placed.best (es.map Prod.snd) <;> simp [byPart, ← he]

/-- A part holds the best of the facts offered under it. -/
lemma lookup_byPart (es : List (CoveredPart × Placed)) (part : CoveredPart) :
    (byPart.groups es).lookup part =
      Placed.best ((es.filter (·.1 = part)).map Prod.snd) := by
  refine (Grouping.lookup_groups rfl es part).trans ?_
  refine (congrArg _ (merged_byPart Grouping.eq_of_mem_filter)).trans ?_
  cases Placed.best ((es.filter (·.1 = part)).map Prod.snd) <;> rfl

end Slot

/-! ### Bindings -/

namespace Binding

/-- The slots of a binding by their names. -/
def byName : Grouping Offer (String × Slot) String where
  cls := Offer.name
  key := Prod.fst
  new o := (o.name, .ofFact o.fact o.part)
  change o s := (s.1, s.2.add o.fact o.part)
  key_new _ := rfl
  key_change _ _ := rfl

lemma addTo_eq (o : Offer) (slots : List (String × Slot)) :
    addTo o.name o.fact o.part slots = byName.add o slots := by
  induction slots with
  | nil => rfl
  | cons s slots ih =>
    obtain ⟨n, slot⟩ := s
    simp only [addTo, Grouping.add, ih]
    rfl

lemma merged_single {name : String} {os : List Offer} (hname : ∀ o ∈ os, o.name = name)
    (hpart : ∀ o ∈ os, o.part = none) :
    byName.merged os = (Placed.best (os.map (·.fact))).map fun f => (name, .single f) := by
  induction os using List.reverseRecOn with
  | nil => rfl
  | append_singleton os o ih =>
    have ih := ih (fun o' ho' => hname o' (List.mem_append_left _ ho'))
      fun o' ho' => hpart o' (List.mem_append_left _ ho')
    have ho := hpart o (by simp)
    rw [Grouping.merged_concat, ih, List.map_append, List.map_singleton, Placed.best_concat]
    cases Placed.best (os.map (·.fact)) with
    | none => simp [byName, Slot.ofFact, ho, hname o]
    | some f => simp [byName, Slot.add]

lemma merged_covered {name : String} {os : List Offer} (hname : ∀ o ∈ os, o.name = name)
    (hpart : ∀ o ∈ os, o.part.isSome) :
    byName.merged os = if os = [] then none else
      some (name, .covered (Slot.byPart.groups (os.filterMap Offer.entry?))) := by
  induction os using List.reverseRecOn with
  | nil => rfl
  | append_singleton os o ih =>
    have ih := ih (fun o' ho' => hname o' (List.mem_append_left _ ho'))
      fun o' ho' => hpart o' (List.mem_append_left _ ho')
    obtain ⟨part, ho⟩ := Option.isSome_iff_exists.1 (hpart o (by simp))
    have hentry : [o].filterMap Offer.entry? = [(part, o.fact)] := by simp [Offer.entry?, ho]
    rw [Grouping.merged_concat, ih, List.filterMap_append, hentry, Grouping.groups_concat,
      if_neg (by simp : os ++ [o] ≠ [])]
    by_cases hnil : os = []
    · subst hnil
      simp [byName, Slot.ofFact, Slot.byPart, Grouping.add, ho, hname o]
    · simp [byName, Slot.add, Slot.addUnder_eq, ho, hnil]

/-- Without parts a slot is the best of the facts offered under its name. -/
lemma lookup_single {os : List Offer} (hpart : ∀ o ∈ os, o.part = none) (name : String) :
    (byName.groups os).lookup name =
      (Placed.best ((os.filter (·.name = name)).map (·.fact))).map .single := by
  refine (Grouping.lookup_groups rfl os name).trans ?_
  refine (congrArg _ (merged_single Grouping.eq_of_mem_filter fun o ho =>
    hpart o (List.mem_of_mem_filter ho))).trans ?_
  rw [Option.map_map]
  rfl

/-- With parts a slot groups the facts offered under its name by their parts. -/
lemma lookup_covered {os : List Offer} (hpart : ∀ o ∈ os, o.part.isSome) (name : String) :
    (byName.groups os).lookup name =
      if os.filter (·.name = name) = [] then none else
        some (.covered (Slot.byPart.groups
          ((os.filter (·.name = name)).filterMap Offer.entry?))) := by
  refine (Grouping.lookup_groups rfl os name).trans ?_
  refine (congrArg _ (merged_covered Grouping.eq_of_mem_filter fun o ho =>
    hpart o (List.mem_of_mem_filter ho))).trans ?_
  split_ifs <;> rfl

end Binding

namespace Bindings

/-- The bindings by their keys. -/
def byKey : Grouping Offer Binding BindingKey where
  cls := Offer.key
  key := Binding.key
  new o := Binding.add ⟨o.key, []⟩ o.fact o.part
  change o b := b.add o.fact o.part
  key_new _ := rfl
  key_change _ _ := rfl

lemma merged_byKey {key : BindingKey} {os : List Offer} (h : ∀ o ∈ os, o.key = key) :
    byKey.merged os = if os = [] then none else some ⟨key, Binding.byName.groups os⟩ := by
  induction os using List.reverseRecOn with
  | nil => rfl
  | append_singleton os o ih =>
    have ho : o.key = key := h o (by simp)
    have ih := ih fun o' ho' => h o' (List.mem_append_left _ ho')
    rw [Grouping.merged_concat, ih, Grouping.groups_concat, if_neg (by simp : os ++ [o] ≠ [])]
    by_cases hnil : os = []
    · subst hnil
      simp [byKey, Binding.add, ← Binding.addTo_eq, Offer.name, ho]
    · simp [byKey, Binding.add, ← Binding.addTo_eq, Offer.name, hnil]

/-! ### The index -/

/-- The index tells of every key where its binding stands. -/
def Indexed (bs : Bindings) : Prop :=
  ∀ key, bs.place? key = bs.items.findIdx? (·.key = key)

lemma indexed_empty : empty.Indexed := fun _ => rfl

lemma Indexed.get?_eq {bs : Bindings} (h : bs.Indexed) (key : BindingKey) :
    bs.get? key = bs.items.find? (·.key = key) := by
  rw [get?, h, List.find?_eq_bind_findIdx?_getElem?]

lemma Indexed.items_add {bs : Bindings} (h : bs.Indexed) (o : Offer) :
    (bs.add o.key o.fact o.part).items = byKey.add o bs.items := by
  rw [add]
  cases hp : bs.place? o.key with
  | none => exact (byKey.add_of_findIdx?_eq_none ((h o.key).symm.trans hp)).symm
  | some i => exact (byKey.add_of_findIdx?_eq_some ((h o.key).symm.trans hp)).symm

lemma place?_add (bs : Bindings) (o : Offer) (key : BindingKey) :
    (bs.add o.key o.fact o.part).place? key =
      (bs.place? key).or (if o.key = key then some bs.items.length else none) := by
  rw [add]
  cases hp : bs.place? o.key with
  | some i =>
    by_cases hk : o.key = key
    · simp [place?, ← hk, show bs.index.lookup o.key = some i from hp]
    · simp [place?, hk]
  | none =>
    by_cases hk : o.key = key
    · simp [place?, ← hk, show bs.index.lookup o.key = none from hp]
    · have hk' : (key == o.key) = false := beq_eq_false_iff_ne.2 (Ne.symm hk)
      simp [place?, List.lookup_cons, hk, hk']

lemma Indexed.add {bs : Bindings} (h : bs.Indexed) (o : Offer) :
    (bs.add o.key o.fact o.part).Indexed := by
  intro key
  rw [place?_add, h.items_add, h key]
  exact (byKey.findIdx?_add o bs.items key).symm

/-! ### Runs -/

/-- The bindings of a list of offers. -/
def ofOffers (os : List Offer) : Bindings :=
  os.foldl (fun bs o => bs.add o.key o.fact o.part) .empty

lemma ofOffers_concat (os : List Offer) (o : Offer) :
    ofOffers (os ++ [o]) = (ofOffers os).add o.key o.fact o.part := by
  simp [ofOffers]

lemma indexed_ofOffers (os : List Offer) : (ofOffers os).Indexed := by
  induction os using List.reverseRecOn with
  | nil => exact indexed_empty
  | append_singleton os o ih =>
    rw [ofOffers_concat]
    exact ih.add o

lemma items_ofOffers (os : List Offer) : (ofOffers os).items = byKey.groups os := by
  induction os using List.reverseRecOn with
  | nil => rfl
  | append_singleton os o ih =>
    rw [ofOffers_concat, (indexed_ofOffers os).items_add, ih, Grouping.groups_concat]

lemma get?_ofOffers (os : List Offer) (key : BindingKey) :
    (ofOffers os).get? key =
      if os.filter (·.key = key) = [] then none
      else some ⟨key, Binding.byName.groups (os.filter (·.key = key))⟩ := by
  rw [(indexed_ofOffers os).get?_eq, items_ofOffers, ← merged_byKey Grouping.eq_of_mem_filter]
  exact byKey.find?_groups os key

lemma slots_ofOffers {os : List Offer} {b : Binding} (hb : b ∈ (ofOffers os).items) :
    b.slots = Binding.byName.groups (os.filter (·.key = b.key)) := by
  rw [items_ofOffers, Grouping.mem_groups] at hb
  replace hb := (merged_byKey Grouping.eq_of_mem_filter).symm.trans hb
  split_ifs at hb with hnil
  exact (congrArg Binding.slots (Option.some.inj hb)).symm

/-! ### What is held -/

/-- The fact held under a key, a name and a covered part. -/
def held? (bs : Bindings) (key : BindingKey) (name : String) (part : Option CoveredPart) :
    Option Placed :=
  (bs.get? key).bind fun b => (b.slot? name).bind (·.held? part)

variable {os : List Offer}

lemma held?_of_single (hpart : ∀ o ∈ os, o.part = none) (name : String)
    (part : Option CoveredPart) :
    ((Binding.byName.groups os).lookup name).bind (·.held? part) =
      Placed.best ((os.filter fun o => o.name = name ∧ o.part = part).map (·.fact)) := by
  rw [Binding.lookup_single hpart]
  cases part with
  | none =>
    have hfilter : (os.filter fun o => o.name = name ∧ o.part = none) =
        os.filter (·.name = name) := by
      refine List.filter_congr fun o ho => ?_
      simp [hpart o ho]
    rw [hfilter]
    cases Placed.best ((os.filter (·.name = name)).map (·.fact)) <;> rfl
  | some part =>
    have hfilter : (os.filter fun o => o.name = name ∧ o.part = some part) = [] := by
      rw [List.filter_eq_nil_iff]
      intro o ho
      simp [hpart o ho]
    rw [hfilter]
    cases Placed.best ((os.filter (·.name = name)).map (·.fact)) <;> rfl

lemma facts_of_entries (os : List Offer) (name : String) (part : CoveredPart) :
    (((os.filter (·.name = name)).filterMap Offer.entry?).filter (·.1 = part)).map Prod.snd =
      (os.filter fun o => o.name = name ∧ o.part = some part).map (·.fact) := by
  induction os with
  | nil => rfl
  | cons o os ih =>
    by_cases hname : o.name = name
    · cases hpart : o.part with
      | none => simpa [hname, hpart, Offer.entry?] using ih
      | some q => by_cases hq : q = part <;> simpa [hname, hpart, Offer.entry?, hq] using ih
    · simpa [hname] using ih

lemma held?_of_covered (hpart : ∀ o ∈ os, o.part.isSome) (name : String)
    (part : Option CoveredPart) :
    ((Binding.byName.groups os).lookup name).bind (·.held? part) =
      Placed.best ((os.filter fun o => o.name = name ∧ o.part = part).map (·.fact)) := by
  rw [Binding.lookup_covered hpart]
  cases part with
  | none =>
    have hfilter : (os.filter fun o => o.name = name ∧ o.part = none) = [] := by
      rw [List.filter_eq_nil_iff]
      intro o ho hname
      simp only [decide_eq_true_eq] at hname
      simpa [hname.2] using hpart o ho
    rw [hfilter]
    split_ifs <;> rfl
  | some part =>
    split_ifs with hnil
    · rw [Option.bind_none, ← facts_of_entries, hnil]
      rfl
    · exact (Slot.lookup_byPart _ part).trans (congrArg Placed.best (facts_of_entries _ name part))

lemma isSome_part_of_covered {a : Alignment} (hpart : ∀ o ∈ os, o.part.isSome = a.tellsPart)
    (ha : a.tellsPart = true) : ∀ o ∈ os, o.part.isSome := by
  intro o ho
  rw [hpart o ho, ha]

lemma part_of_single {a : Alignment} (hpart : ∀ o ∈ os, o.part.isSome = a.tellsPart)
    (ha : a.tellsPart = false) : ∀ o ∈ os, o.part = none := by
  intro o ho
  rw [← Option.not_isSome_iff_eq_none, hpart o ho, ha]
  exact Bool.false_ne_true

/-- What is held is the best of the facts offered there. -/
lemma held?_ofOffers {a : Alignment} (hpart : ∀ o ∈ os, o.part.isSome = a.tellsPart)
    (key : BindingKey) (name : String) (part : Option CoveredPart) :
    (ofOffers os).held? key name part =
      Placed.best ((os.filter fun o => o.key = key ∧ o.name = name ∧ o.part = part).map
        (·.fact)) := by
  have hfilter : (os.filter fun o => o.key = key ∧ o.name = name ∧ o.part = part) =
      (os.filter (·.key = key)).filter fun o => o.name = name ∧ o.part = part := by
    rw [List.filter_filter]
    simp only [Bool.decide_and, Bool.and_comm]
  have hkey : ∀ o ∈ os.filter (·.key = key), o.part.isSome = a.tellsPart :=
    fun o ho => hpart o (List.mem_of_mem_filter ho)
  rw [held?, get?_ofOffers, hfilter]
  split_ifs with hnil
  · rw [hnil]
    rfl
  · rw [Option.bind_some, Binding.slot?]
    cases ha : a.tellsPart with
    | false => exact held?_of_single (part_of_single hkey ha) name part
    | true => exact held?_of_covered (isSome_part_of_covered hkey ha) name part

end Bindings

namespace FactStore

variable {p : Policy} {a : Alignment}

lemma foldl_bindFact (fs : List Placed) :
    fs.foldl (bindFact p a) .empty = Bindings.ofOffers (fs.filterMap (p.offer? a)) := by
  induction fs using List.reverseRecOn with
  | nil => rfl
  | append_singleton fs f ih =>
    rw [List.foldl_append, List.foldl_cons, List.foldl_nil, ih, List.filterMap_append, bindFact,
      List.filterMap_cons, Policy.offer?]
    cases p.admitted? f.fact with
    | none => simp
    | some c => simp [Bindings.ofOffers_concat]

/-- Binding goes through the walk. -/
lemma bind_eq_foldl (p : Policy) (facts : List Fact) (names : List String) :
    (ofList facts).bind names p = p.alignment.map fun a =>
      (Policy.walk facts names).foldl (bindFact p a) .empty := by
  have hwalk : names.flatMap (ofList facts).named = Policy.walk facts names :=
    List.flatMap_congr fun name _ => named_ofList facts name
  rw [bind, hwalk]
  cases p.alignment <;> rfl

/-- Binding takes in the offers of the walk. -/
lemma bind_ofList (h : p.alignment = .ok a) (facts : List Fact) (names : List String) :
    (ofList facts).bind names p = .ok (.ofOffers (p.offers a facts names)) := by
  rw [bind_eq_foldl, h, Policy.offers, ← foldl_bindFact]
  rfl

end FactStore

end Disclosure
