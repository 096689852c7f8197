import Disclosure.Proofs.Fact.Offers

/-!
# Binding accounts for every fact

The bindings of a list of offers hold what was offered and nothing else (`Bindings.Accounts`): the
keys, the names under each key and the parts under each name are those of the offers, every slot
has the shape that the alignment asks for, and the look-up by key finds the listed bindings.
-/

namespace Disclosure

/-- Whether a slot leaves out a fact that comes with this part. -/
def Slot.drops : Slot → Option CoveredPart → Bool
  | .covered _, none => true
  | _, _ => false

lemma Slot.add_of_drops {slot : Slot} {part : Option CoveredPart} (h : slot.drops part)
    (f : Placed) : slot.add f part = slot := by
  cases slot with
  | single held => simp [drops] at h
  | covered held =>
    cases part with
    | none => rfl
    | some part => simp [drops] at h

namespace Bindings

/-- Bindings hold what a list of offers brings, in the shape of an alignment. -/
structure Accounts (a : Alignment) (os : List Offer) (bs : Bindings) : Prop where
  nodup_keys : (bs.items.map (·.key)).Nodup
  /-- The keys stand in the order in which the offers first bring them. -/
  keys_eq : bs.items.map (·.key) = (os.map (·.key)).eraseDups
  nodup_names : ∀ b ∈ bs.items, (b.slots.map Prod.fst).Nodup
  mem_names : ∀ b ∈ bs.items, ∀ name,
    name ∈ b.slots.map Prod.fst ↔ ∃ o ∈ os, o.key = b.key ∧ o.name = name
  single : a.tellsPart = false → ∀ b ∈ bs.items, ∀ s ∈ b.slots, ∃ f, s.2 = .single f
  covered : a.tellsPart = true → ∀ b ∈ bs.items, ∀ s ∈ b.slots, ∃ held, s.2 = .covered held ∧
    (held.map Prod.fst).Nodup ∧ ∀ part, part ∈ held.map Prod.fst ↔
      ∃ o ∈ os, o.key = b.key ∧ o.name = s.1 ∧ o.part = some part
  /-- What is held has been offered there. -/
  held : ∀ b ∈ bs.items, ∀ s ∈ b.slots, ∀ part f, s.2.held? part = some f →
    ∃ o ∈ os, o.key = b.key ∧ o.name = s.1 ∧ o.part = part ∧ o.fact = f
  get?_listed : ∀ b ∈ bs.items, bs.get? b.key = some b
  get?_unlisted : ∀ key, key ∉ bs.items.map (·.key) → bs.get? key = none

variable {os : List Offer} {b : Binding}

/-! ### Keys and names -/

lemma keys_ofOffers (os : List Offer) :
    (ofOffers os).items.map (·.key) = (os.map (·.key)).eraseDups := by
  rw [items_ofOffers]
  exact byKey.keys_groups os

lemma nodup_keys_ofOffers (os : List Offer) : ((ofOffers os).items.map (·.key)).Nodup := by
  rw [items_ofOffers]
  exact byKey.nodup_keys_groups os

lemma mem_names_ofOffers (hb : b ∈ (ofOffers os).items) (name : String) :
    name ∈ b.slots.map Prod.fst ↔ ∃ o ∈ os, o.key = b.key ∧ o.name = name := by
  have hnames : b.slots.map Prod.fst =
      ((os.filter (·.key = b.key)).map Offer.name).eraseDups := by
    rw [slots_ofOffers hb]
    exact Binding.byName.keys_groups _
  rw [hnames, List.mem_eraseDups]
  simp [and_assoc]

lemma get?_of_mem_items (hb : b ∈ (ofOffers os).items) : (ofOffers os).get? b.key = some b := by
  rw [(indexed_ofOffers os).get?_eq]
  rw [items_ofOffers] at hb ⊢
  exact (byKey.find?_groups os b.key).trans (byKey.mem_groups.1 hb)

lemma slot?_of_mem_slots (hb : b ∈ (ofOffers os).items) {s : String × Slot} (hs : s ∈ b.slots) :
    b.slot? s.1 = some s.2 := by
  rw [Binding.slot?]
  rw [slots_ofOffers hb] at hs ⊢
  exact (Grouping.mem_groups_iff_lookup rfl).1 hs

lemma lookup_of_mem_slots (hb : b ∈ (ofOffers os).items) {s : String × Slot} (hs : s ∈ b.slots) :
    (Binding.byName.groups (os.filter (·.key = b.key))).lookup s.1 = some s.2 := by
  rw [← slots_ofOffers hb]
  exact slot?_of_mem_slots hb hs

/-! ### Slots -/

lemma single_of_mem_slots (hpart : ∀ o ∈ os, o.part = none) (hb : b ∈ (ofOffers os).items)
    {s : String × Slot} (hs : s ∈ b.slots) : ∃ f, s.2 = .single f := by
  have hlookup := lookup_of_mem_slots hb hs
  rw [Binding.lookup_single fun o ho => hpart o (List.mem_of_mem_filter ho),
    Option.map_eq_some_iff] at hlookup
  obtain ⟨f, _, hslot⟩ := hlookup
  exact ⟨f, hslot.symm⟩

lemma covered_of_mem_slots (hpart : ∀ o ∈ os, o.part.isSome) (hb : b ∈ (ofOffers os).items)
    {s : String × Slot} (hs : s ∈ b.slots) :
    s.2 = .covered (Slot.byPart.groups
      ((os.filter fun o => o.key = b.key ∧ o.name = s.1).filterMap Offer.entry?)) := by
  have hlookup := lookup_of_mem_slots hb hs
  rw [Binding.lookup_covered fun o ho => hpart o (List.mem_of_mem_filter ho)] at hlookup
  split_ifs at hlookup with hnil
  rw [← Option.some.inj hlookup, List.filter_filter]
  simp only [Bool.decide_and, Bool.and_comm]

lemma parts_of_covered (hpart : ∀ o ∈ os, o.part.isSome) (hb : b ∈ (ofOffers os).items)
    {s : String × Slot} (hs : s ∈ b.slots) :
    ∃ held, s.2 = .covered held ∧ (held.map Prod.fst).Nodup ∧
      ∀ part, part ∈ held.map Prod.fst ↔
        ∃ o ∈ os, o.key = b.key ∧ o.name = s.1 ∧ o.part = some part := by
  refine ⟨_, covered_of_mem_slots hpart hb hs, Slot.byPart.nodup_keys_groups _, fun part => ?_⟩
  rw [show List.map Prod.fst _ = _ from Slot.byPart.keys_groups _, List.mem_eraseDups]
  simp [Slot.byPart, Offer.entry?, and_assoc]

/-- What a slot holds has been offered there. -/
lemma offered_of_held {a : Alignment} (hpart : ∀ o ∈ os, o.part.isSome = a.tellsPart)
    (hb : b ∈ (ofOffers os).items) {s : String × Slot} (hs : s ∈ b.slots)
    {part : Option CoveredPart} {f : Placed} (hheld : s.2.held? part = some f) :
    ∃ o ∈ os, o.key = b.key ∧ o.name = s.1 ∧ o.part = part ∧ o.fact = f := by
  have hbest : (ofOffers os).held? b.key s.1 part = some f := by
    rw [held?, get?_of_mem_items hb, Option.bind_some, slot?_of_mem_slots hb hs, Option.bind_some,
      hheld]
  rw [held?_ofOffers hpart] at hbest
  obtain ⟨o, ho, hfact⟩ := List.mem_map.1 (Placed.mem_of_best hbest)
  rw [List.mem_filter, decide_eq_true_eq] at ho
  obtain ⟨ho, hkey, hname, hp⟩ := ho
  exact ⟨o, ho, hkey, hname, hp, hfact⟩

/-! ### All together -/

lemma accounts_ofOffers {a : Alignment} (hpart : ∀ o ∈ os, o.part.isSome = a.tellsPart) :
    (ofOffers os).Accounts a os where
  nodup_keys := nodup_keys_ofOffers os
  keys_eq := keys_ofOffers os
  nodup_names b hb := by
    rw [slots_ofOffers hb]
    exact Binding.byName.nodup_keys_groups _
  mem_names b hb := mem_names_ofOffers hb
  single ha b hb s hs := single_of_mem_slots (part_of_single hpart ha) hb hs
  covered ha b hb s hs := parts_of_covered (isSome_part_of_covered hpart ha) hb hs
  held b hb s hs part f := offered_of_held hpart hb hs
  get?_listed b hb := get?_of_mem_items hb
  get?_unlisted key hkey := by
    rw [(indexed_ofOffers os).get?_eq, List.find?_eq_none]
    intro b hb hbkey
    exact hkey (List.mem_map.2 ⟨b, hb, of_decide_eq_true hbkey⟩)

/-- A slot of the right shape never leaves out an offer. -/
lemma not_drops_ofOffers {a : Alignment} (hpart : ∀ o ∈ os, o.part.isSome = a.tellsPart)
    {o : Offer} (ho : o.part.isSome = a.tellsPart) (hb : b ∈ (ofOffers os).items)
    {slot : Slot} (hslot : b.slot? o.name = some slot) : slot.drops o.part = false := by
  have hmem : (o.name, slot) ∈ b.slots := by
    rw [Binding.slot?, slots_ofOffers hb] at hslot
    rw [slots_ofOffers hb]
    exact (Grouping.mem_groups_iff_lookup rfl).2 hslot
  cases ha : a.tellsPart with
  | false =>
    obtain ⟨f, hs⟩ := single_of_mem_slots (part_of_single hpart ha) hb hmem
    obtain rfl : slot = .single f := hs
    rfl
  | true =>
    obtain ⟨part, hp⟩ := Option.isSome_iff_exists.1 (ho.trans ha)
    rw [hp]
    cases slot <;> rfl

end Bindings

/-! ### Binding -/

variable {p : Policy} {a : Alignment}

lemma Policy.isSome_part_of_mem {fs : List Placed} :
    ∀ o ∈ fs.filterMap (p.offer? a), o.part.isSome = a.tellsPart := by
  intro o ho
  obtain ⟨f, _, hf⟩ := List.mem_filterMap.1 ho
  exact p.isSome_part hf

/--
Binding loses and invents nothing: the bindings account for all admitted facts of the walk, and
whatever has been taken in before, no fact is left out by the slot that it comes to.
-/
theorem bind_accounts (h : p.alignment = .ok a) (facts : List Fact) (names : List String) :
    ∃ bs, (FactStore.ofList facts).bind names p = .ok bs ∧
      bs.Accounts a (p.offers a facts names) ∧
      ∀ (fs : List Placed) (f : Placed) (o : Offer), p.offer? a f = some o →
        ∀ b : Binding, (fs.foldl (FactStore.bindFact p a) .empty).get? o.key = some b →
          ∀ slot : Slot, b.slot? o.name = some slot → slot.drops o.part = false := by
  refine ⟨_, FactStore.bind_ofList h facts names,
    Bindings.accounts_ofOffers Policy.isSome_part_of_mem, ?_⟩
  intro fs f o ho b hb slot hslot
  rw [FactStore.foldl_bindFact] at hb
  have hmem : b ∈ (Bindings.ofOffers (fs.filterMap (p.offer? a))).items := by
    rw [(Bindings.indexed_ofOffers _).get?_eq] at hb
    exact List.mem_of_find?_eq_some hb
  exact Bindings.not_drops_ofOffers Policy.isSome_part_of_mem (p.isSome_part ho) hmem hslot

/-! ### An instance -/

/-- The last day of a year. -/
def sampleDay (year : Int) (h : -262143 ≤ year ∧ year ≤ 262142) : Period :=
  .instant ⟨year, 12, 31, h, by simp [daysInMonth]⟩

/-- The end of the first year. -/
def firstDay : Period := sampleDay 2023 (by simp)

/-- The end of the second year. -/
def secondDay : Period := sampleDay 2024 (by simp)

/-- A checked fact without dimensions, reported in dollars. -/
def sampleFact (name : String) (value : FactValue) (period : Period) (precision : Precision) :
    Fact where
  concept := ⟨"http://example.com/2024", name⟩
  value := value
  context := some (.ofPeriod period)
  unit := some "USD"
  precision := precision
  state := .valid

/-- Assets of two days, those of the first day thrice, with the debts of one day between them. -/
def sampleFacts : List Fact :=
  [sampleFact "Assets" .nil firstDay .exact,
    sampleFact "Assets" (.text "1000") firstDay (.places (-3)),
    sampleFact "Debts" (.text "700") firstDay (.places 0),
    sampleFact "Assets" (.text "1200") secondDay (.places 0),
    sampleFact "Assets" (.text "1024") firstDay (.places 0)]

theorem bind_accounts_over_days :
    Policy.alignment { coverPeriod := true } = .ok .coverPeriod ∧
    ∃ bs, (FactStore.ofList sampleFacts).bind ["Assets", "Debts", "Assets"]
        { coverPeriod := true } = .ok bs ∧
      bs.Accounts .coverPeriod (Policy.offers { coverPeriod := true } .coverPeriod sampleFacts
        ["Assets", "Debts", "Assets"]) ∧
      ∀ (fs : List Placed) (f : Placed) (o : Offer),
        Policy.offer? { coverPeriod := true } .coverPeriod f = some o →
        ∀ b : Binding, (fs.foldl (FactStore.bindFact { coverPeriod := true } .coverPeriod)
            .empty).get? o.key = some b →
          ∀ slot : Slot, b.slot? o.name = some slot → slot.drops o.part = false :=
  ⟨rfl, bind_accounts rfl sampleFacts ["Assets", "Debts", "Assets"]⟩

end Disclosure
