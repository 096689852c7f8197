import Disclosure.Proofs.Fact.Coarsening

/-!
# The least precision of a binding

The least precision of some facts is at most that of every fact with a value, and unless it is exact
one of these has it (`LeastPrecisionOf`). This leaves one precision, and only says which facts
count. So for a binding neither the order of the names counts, nor how often a name is given, nor
names without a slot (`leastPrecision_named`).
-/

namespace Disclosure

namespace Precision

variable {ps : List Precision} {p : Precision}

/-! ### The least of a list -/

lemma min_atMost_left (a b : Precision) : (min a b).AtMost a := by
  rw [min]
  split_ifs with h
  · exact (atMost_total b a).resolve_right (lt_iff_not_atMost.1 h)
  · exact atMost_refl a

lemma min_atMost_right (a b : Precision) : (min a b).AtMost b := by
  rw [min]
  split_ifs with h
  · exact atMost_refl b
  · by_contra hab
    exact h (lt_iff_not_atMost.2 hab)

lemma foldl_min_atMost (ps : List Precision) (q : Precision) :
    (ps.foldl min q).AtMost q ∧ ∀ p ∈ ps, (ps.foldl min q).AtMost p := by
  induction ps generalizing q with
  | nil => exact ⟨atMost_refl q, by simp⟩
  | cons p ps ih =>
    obtain ⟨hmin, hps⟩ := ih (min q p)
    rw [List.foldl_cons]
    refine ⟨atMost_trans hmin (min_atMost_left q p), List.forall_mem_cons.2 ⟨?_, hps⟩⟩
    exact atMost_trans hmin (min_atMost_right q p)

lemma foldl_min_mem (ps : List Precision) (q : Precision) : ps.foldl min q ∈ q :: ps := by
  induction ps generalizing q with
  | nil => exact List.mem_singleton_self q
  | cons p ps ih =>
    rw [List.foldl_cons]
    rcases List.mem_cons.1 (ih (min q p)) with h | h
    · rw [h, min]
      split_ifs <;> simp
    · simp [h]

lemma least_atMost (h : p ∈ ps) : (least ps).AtMost p :=
  (foldl_min_atMost ps .exact).2 p h

lemma least_mem (h : least ps ≠ .exact) : least ps ∈ ps :=
  (List.mem_cons.1 (foldl_min_mem ps .exact)).resolve_left h

lemma atMost_exact (p : Precision) : p.AtMost .exact := by
  cases p <;> trivial

end Precision

/-! ### The least of some facts -/

lemma leastPrecision_atMost {fs : List Fact} {f : Fact} (hf : f ∈ fs) (hnil : ¬f.isNil) :
    (leastPrecision fs).AtMost f.precision :=
  Precision.least_atMost (List.mem_map_of_mem (List.mem_filter.2 ⟨hf, by simpa using hnil⟩))

lemma exists_of_leastPrecision {fs : List Fact} (h : leastPrecision fs ≠ .exact) :
    ∃ f ∈ fs, ¬f.isNil ∧ f.precision = leastPrecision fs := by
  obtain ⟨f, hf, hprecision⟩ := List.mem_map.1 (Precision.least_mem h)
  obtain ⟨hf, hnil⟩ := List.mem_filter.1 hf
  exact ⟨f, hf, by simpa using hnil, hprecision⟩

/-- The precision that no fact with a value is below. One of them has it, unless it is exact. -/
structure LeastPrecisionOf (C : Placed → Prop) (q : Precision) : Prop where
  atMost : ∀ r, C r → ¬r.fact.isNil → q.AtMost r.fact.precision
  attained : q ≠ .exact → ∃ r, C r ∧ ¬r.fact.isNil ∧ r.fact.precision = q

namespace LeastPrecisionOf

variable {C C' : Placed → Prop} {q q' : Precision}

/-- More facts have no greater least precision. -/
lemma mono (h : LeastPrecisionOf C q) (h' : LeastPrecisionOf C' q') (hsub : ∀ r, C r → C' r) :
    q'.AtMost q := by
  by_cases hq : q = .exact
  · rw [hq]
    exact q'.atMost_exact
  · obtain ⟨r, hr, hnil, rfl⟩ := h.attained hq
    exact h'.atMost r (hsub r hr) hnil

lemma congr (h : LeastPrecisionOf C q) (h' : LeastPrecisionOf C' q') (hiff : ∀ r, C r ↔ C' r) :
    q = q' :=
  Precision.atMost_antisymm (h'.mono h fun r => (hiff r).2) (h.mono h' fun r => (hiff r).1)

lemma eq_exact (h : LeastPrecisionOf C q) (hnil : ∀ r, C r → r.fact.isNil) : q = .exact := by
  by_contra hq
  obtain ⟨r, hr, hvalue, -⟩ := h.attained hq
  exact hvalue (hnil r hr)

end LeastPrecisionOf

lemma leastPrecisionOf_map (rs : List Placed) :
    LeastPrecisionOf (· ∈ rs) (leastPrecision (rs.map (·.fact))) where
  atMost _ hr hnil := leastPrecision_atMost (List.mem_map_of_mem hr) hnil
  attained h := by
    obtain ⟨f, hf, hnil, hprecision⟩ := exists_of_leastPrecision h
    obtain ⟨r, hr, rfl⟩ := List.mem_map.1 hf
    exact ⟨r, hr, hnil, hprecision⟩

/-! ### Slots of a binding -/

namespace Binding

variable {b : Binding} {names names' : List String} {r : Placed}

/-- Whether a binding holds a fact in the slot of one of the names, under any covered part. -/
def Shows (b : Binding) (names : List String) (r : Placed) : Prop :=
  ∃ name ∈ names, ∃ slot part, b.slot? name = some slot ∧ slot.held? part = some r

/-- The names that a list of names stands for: an empty list for all. -/
def asked (b : Binding) (names : List String) : List String :=
  if names = [] then b.slots.map Prod.fst else names

lemma Shows.mono (h : b.Shows names r) (hsub : ∀ name, (b.slot? name).isSome → name ∈ names →
    name ∈ names') : b.Shows names' r := by
  obtain ⟨name, hname, slot, part, hslot, hheld⟩ := h
  exact ⟨name, hsub name (by simp [hslot]) hname, slot, part, hslot, hheld⟩

lemma shows_iff_exists_singleton : b.Shows names r ↔ ∃ name ∈ names, b.Shows [name] r := by
  simp [Shows]

lemma mem_slotsNamed (hne : names ≠ []) {slot : Slot} :
    slot ∈ b.slotsNamed names ↔ ∃ name ∈ names, b.slot? name = some slot := by
  rw [slotsNamed, if_neg (by simpa using hne), List.mem_filterMap]

lemma mem_slots_of_slot? {name : String} {slot : Slot} (h : b.slot? name = some slot) :
    (name, slot) ∈ b.slots := by
  obtain ⟨before, after, hslots, -⟩ := List.lookup_eq_some_iff.1 h
  simp [hslots]

end Binding

lemma Slot.mem_facts_of_held? {slot : Slot} {part : Option CoveredPart} {r : Placed}
    (h : slot.held? part = some r) : r ∈ slot.facts := by
  cases slot with
  | single held =>
    cases part with
    | none =>
      cases h
      exact List.mem_singleton_self r
    | some part => cases h
  | covered held =>
    cases part with
    | none => cases h
    | some part =>
      obtain ⟨before, after, hheld, -⟩ := List.lookup_eq_some_iff.1 h
      simp [facts, hheld]

/-! ### Bindings of offers -/

namespace Bindings

variable {a : Alignment} {os : List Offer} {b : Binding} {names names' : List String}

lemma mem_flatMap_facts_iff (hpart : ∀ o ∈ os, o.part.isSome = a.tellsPart)
    (hb : b ∈ (ofOffers os).items) (hne : names ≠ []) {r : Placed} :
    r ∈ (b.slotsNamed names).flatMap Slot.facts ↔ b.Shows names r := by
  simp only [List.mem_flatMap, Binding.mem_slotsNamed hne]
  constructor
  · rintro ⟨slot, ⟨name, hname, hslot⟩, hr⟩
    obtain ⟨part, hheld⟩ :=
      exists_held?_of_mem_facts hpart hb (Binding.mem_slots_of_slot? hslot) hr
    exact ⟨name, hname, slot, part, hslot, hheld⟩
  · rintro ⟨name, hname, slot, part, hslot, hheld⟩
    exact ⟨slot, ⟨name, hname, hslot⟩, Slot.mem_facts_of_held? hheld⟩

/-- The least precision of given names is that of the facts in their slots. -/
lemma leastPrecisionOf_shows (hpart : ∀ o ∈ os, o.part.isSome = a.tellsPart)
    (hb : b ∈ (ofOffers os).items) (hne : names ≠ []) :
    LeastPrecisionOf (b.Shows names) (b.leastPrecision names) := by
  have hshows : b.Shows names = (· ∈ (b.slotsNamed names).flatMap Slot.facts) := by
    funext r
    exact propext (mem_flatMap_facts_iff hpart hb hne).symm
  rw [hshows]
  exact leastPrecisionOf_map _

lemma slots_ne_nil (hb : b ∈ (ofOffers os).items) : b.slots ≠ [] := by
  have hkey : b.key ∈ (os.map (·.key)).eraseDups := by
    rw [← keys_ofOffers]
    exact List.mem_map_of_mem hb
  obtain ⟨o, ho, hkey⟩ := List.mem_map.1 (List.mem_eraseDups.1 hkey)
  have hname : o.name ∈ b.slots.map Prod.fst := (mem_names_ofOffers hb o.name).2 ⟨o, ho, hkey, rfl⟩
  rintro hnil
  rw [hnil] at hname
  cases hname

/-- Without names all slots count. -/
lemma leastPrecision_nil (hb : b ∈ (ofOffers os).items) :
    b.leastPrecision [] = b.leastPrecision (b.slots.map Prod.fst) := by
  have hslots : (b.slots.map Prod.fst).filterMap b.slot? = b.slots.map Prod.snd := by
    rw [List.filterMap_map, ← List.filterMap_eq_map]
    exact List.filterMap_congr fun s hs => slot?_of_mem_slots hb hs
  have hnamed : b.slotsNamed (b.slots.map Prod.fst) = b.slotsNamed [] := by
    rw [Binding.slotsNamed, if_neg (by simpa using slots_ne_nil hb), hslots]
    rfl
  rw [Binding.leastPrecision, Binding.leastPrecision, hnamed]

lemma leastPrecisionOf_asked (hpart : ∀ o ∈ os, o.part.isSome = a.tellsPart)
    (hb : b ∈ (ofOffers os).items) (names : List String) :
    LeastPrecisionOf (b.Shows (b.asked names)) (b.leastPrecision names) := by
  rw [Binding.asked]
  split_ifs with hnames
  · rw [hnames, leastPrecision_nil hb]
    exact leastPrecisionOf_shows hpart hb (by simpa using slots_ne_nil hb)
  · exact leastPrecisionOf_shows hpart hb hnames

/-- The least precision of several names is the least of those of the names alone. -/
lemma leastPrecision_eq_least (hpart : ∀ o ∈ os, o.part.isSome = a.tellsPart)
    (hb : b ∈ (ofOffers os).items) (hne : names ≠ []) :
    b.leastPrecision names = Precision.least (names.map fun name => b.leastPrecision [name]) := by
  have halone : ∀ name, LeastPrecisionOf (b.Shows [name]) (b.leastPrecision [name]) :=
    fun name => leastPrecisionOf_shows hpart hb (List.cons_ne_nil name [])
  refine (leastPrecisionOf_shows hpart hb hne).congr ⟨?atMost, ?attained⟩ fun _ => Iff.rfl
  case atMost =>
    intro r hr hnil
    obtain ⟨name, hname, hr⟩ := Binding.shows_iff_exists_singleton.1 hr
    exact Precision.atMost_trans (Precision.least_atMost (List.mem_map_of_mem hname))
      ((halone name).atMost r hr hnil)
  case attained =>
    intro hexact
    obtain ⟨name, hname, hleast⟩ := List.mem_map.1 (Precision.least_mem hexact)
    rw [← hleast] at hexact ⊢
    obtain ⟨r, hr, hnil, hprecision⟩ := (halone name).attained hexact
    exact ⟨r, Binding.shows_iff_exists_singleton.2 ⟨name, hname, hr⟩, hnil, hprecision⟩

/-- What a binding shows is what is held under its key. -/
lemma shows_iff_held? (hb : b ∈ (ofOffers os).items) {r : Placed} :
    b.Shows names r ↔ ∃ name ∈ names, ∃ part, (ofOffers os).held? b.key name part = some r := by
  simp only [Binding.Shows, held?, get?_of_mem_items hb, Option.bind_some, Option.bind_eq_some_iff]
  exact exists_congr fun name => and_congr_right fun _ => exists_comm

end Bindings

/-! ### The class of a binding -/

namespace Policy

variable {p : Policy} {a : Alignment} {facts : List Fact} {requested names : List String}
  {b : Binding} {r : Placed}

/-- The admitted facts of the requested names that share a key. -/
def boundFacts (p : Policy) (a : Alignment) (facts : List Fact) (requested : List String)
    (key : BindingKey) : List Fact :=
  facts.filter fun f =>
    f.name ∈ requested ∧ (p.admitted? f).any fun c => (a.keys p c f.unit).1 = key

lemma mem_boundFacts_of_mem_offers {o : Offer} (ho : o ∈ p.offers a facts requested) :
    o.fact.fact ∈ p.boundFacts a facts requested o.key := by
  obtain ⟨hplace, hname, hoffer⟩ := mem_offers.1 ho
  obtain ⟨c, hc, hkey⟩ := Option.map_eq_some_iff.1 hoffer
  have hmem : o.fact.fact ∈ facts := List.mem_of_getElem? hplace
  have hname : o.fact.fact.name ∈ requested := hname
  have hkey : (a.keys p c o.fact.fact.unit).1 = o.key := congrArg Offer.key hkey
  refine List.mem_filter.2 ⟨hmem, ?_⟩
  simpa [hc, hkey] using hname

lemma mem_boundFacts_of_shows (hb : b ∈ (Bindings.ofOffers (p.offers a facts requested)).items)
    (hr : b.Shows names r) : r.fact ∈ p.boundFacts a facts requested b.key := by
  obtain ⟨name, -, slot, part, hslot, hheld⟩ := hr
  obtain ⟨o, ho, hkey, -, -, rfl⟩ :=
    Bindings.offered_of_held isSome_part_of_mem hb (Binding.mem_slots_of_slot? hslot) hheld
  rw [← hkey]
  exact mem_boundFacts_of_mem_offers ho

/-- No binding has a lesser precision than its class. -/
lemma leastPrecision_boundFacts_atMost
    (hb : b ∈ (Bindings.ofOffers (p.offers a facts requested)).items) (names : List String) :
    (leastPrecision (p.boundFacts a facts requested b.key)).AtMost (b.leastPrecision names) := by
  by_cases hexact : b.leastPrecision names = .exact
  · rw [hexact]
    exact Precision.atMost_exact _
  · obtain ⟨r, hr, hvalue, hprecision⟩ :=
      (Bindings.leastPrecisionOf_asked isSome_part_of_mem hb names).attained hexact
    rw [← hprecision]
    exact leastPrecision_atMost (mem_boundFacts_of_shows hb hr) hvalue

end Policy

/--
For every binding, the least precision of some names is that of the facts that it shows in their
slots, under all covered parts; without names all slots count. It is the least of the results for
each name alone, and only names with a slot count, in any order. It is never below the least
precision of the class of the binding.
-/
theorem leastPrecision_named {p : Policy} {a : Alignment} (h : p.alignment = .ok a)
    (facts : List Fact) (requested : List String) :
    ∃ bs, (FactStore.ofList facts).bind requested p = .ok bs ∧ ∀ b ∈ bs.items,
      (∀ names r, b.Shows names r ↔
        ∃ name ∈ names, ∃ part, bs.held? b.key name part = some r) ∧
      (∀ names, names ≠ [] →
        LeastPrecisionOf (b.Shows names) (b.leastPrecision names) ∧
        ((∀ r, b.Shows names r → r.fact.isNil) → b.leastPrecision names = .exact) ∧
        b.leastPrecision names = Precision.least (names.map fun name => b.leastPrecision [name]) ∧
        ∀ names', names' ≠ [] →
          (∀ name, (b.slot? name).isSome → (name ∈ names ↔ name ∈ names')) →
            b.leastPrecision names = b.leastPrecision names') ∧
      b.leastPrecision [] = b.leastPrecision (b.slots.map Prod.fst) ∧
      ∀ names,
        (∀ n, b.leastPrecision names = .places n →
          ∃ r, b.Shows (b.asked names) r ∧ ¬r.fact.isNil ∧ r.fact.precision = .places n) ∧
        (leastPrecision (p.boundFacts a facts requested b.key)).AtMost
          (b.leastPrecision names) := by
  refine ⟨_, FactStore.bind_ofList h facts requested, fun b hb => ?_⟩
  have hleast : ∀ {names}, names ≠ [] → LeastPrecisionOf (b.Shows names) (b.leastPrecision names) :=
    fun hne => Bindings.leastPrecisionOf_shows Policy.isSome_part_of_mem hb hne
  refine ⟨fun names r => Bindings.shows_iff_held? hb, ?named, Bindings.leastPrecision_nil hb, ?all⟩
  case named =>
    intro names hne
    refine ⟨hleast hne, (hleast hne).eq_exact,
      Bindings.leastPrecision_eq_least Policy.isSome_part_of_mem hb hne,
      fun names' hne' hsame => ?_⟩
    refine (hleast hne).congr (hleast hne') fun r => ⟨fun hr => ?_, fun hr => ?_⟩
    · exact hr.mono fun name hslot hname => (hsame name hslot).1 hname
    · exact hr.mono fun name hslot hname => (hsame name hslot).2 hname
  case all =>
    intro names
    refine ⟨fun n hn => ?_, Policy.leastPrecision_boundFacts_atMost hb names⟩
    have hasked := Bindings.leastPrecisionOf_asked Policy.isSome_part_of_mem hb names
    rw [hn] at hasked
    exact hasked.attained Precision.noConfusion

/-- Debts of the second day that are only known to the million, behind facts of both days. -/
def roundedFacts : List Fact :=
  sampleFacts ++ [sampleFact "Debts" (.text "1000000") secondDay (.places (-6))]

theorem leastPrecision_named_rounded :
    Policy.alignment { coverPeriod := true } = .ok .coverPeriod ∧
      ∃ bs, (FactStore.ofList roundedFacts).bind ["Assets", "Debts"] { coverPeriod := true } =
          .ok bs ∧
        bs.items.map (·.leastPrecision ["Assets"]) = [.places 0] ∧
        bs.items.map (·.leastPrecision []) = [.places (-6)] ∧
        bs.items.map (·.leastPrecision ["Income"]) = [.exact] ∧
        ∀ b ∈ bs.items,
          (∃ r, b.Shows ["Debts", "Assets"] r ∧ ¬r.fact.isNil ∧ r.fact.precision = .places (-6)) ∧
          b.leastPrecision ["Assets", "Debts", "Assets"] =
            b.leastPrecision ["Debts", "Assets"] := by
  have hleast : ((FactStore.ofList roundedFacts).bind ["Assets", "Debts"]
      { coverPeriod := true }).toOption.map (fun bs =>
        (bs.items.map (·.leastPrecision ["Assets"]), bs.items.map (·.leastPrecision []),
          bs.items.map (·.leastPrecision ["Income"]),
          bs.items.map (·.leastPrecision ["Debts", "Assets"]))) =
      some ([.places 0], [.places (-6)], [.exact], [.places (-6)]) := by
    decide
  have halign : Policy.alignment { coverPeriod := true } = .ok .coverPeriod := rfl
  obtain ⟨bs, hbs, hall⟩ := leastPrecision_named halign roundedFacts ["Assets", "Debts"]
  rw [hbs] at hleast
  simp only [Except.toOption, Option.map_some, Option.some.injEq, Prod.mk.injEq] at hleast
  obtain ⟨hassets, hwhole, hincome, hboth⟩ := hleast
  refine ⟨halign, bs, hbs, hassets, hwhole, hincome, fun b hb => ?_⟩
  obtain ⟨-, hnamed, -, hasked⟩ := hall b hb
  obtain ⟨-, -, -, hsame⟩ := hnamed ["Assets", "Debts", "Assets"] (by simp)
  have hleast : b.leastPrecision ["Debts", "Assets"] = .places (-6) := by
    have hmem := List.mem_map_of_mem (f := (·.leastPrecision ["Debts", "Assets"])) hb
    rw [hboth, List.mem_singleton] at hmem
    exact hmem
  refine ⟨(hasked _).1 _ hleast, hsame _ (by simp) fun name _ => ?_⟩
  simp only [List.mem_cons, List.not_mem_nil, or_false]
  tauto

end Disclosure
