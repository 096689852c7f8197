import Mathlib.Data.Set.Function
import Disclosure.Proofs.Fact.Context
import Disclosure.Proofs.Fact.Representative

/-!
# Coarser alignments

A policy that covers nothing tells all contexts and units apart (`Policy.uncovered`). Every other
policy with the same demands on facts is coarser: facts that it would hold in different places it
may hold in one. A fact that it holds is nevertheless the one that represents its own context and
unit. Where the covered part is told, nothing is merged at all, and both policies hold the same
facts, those of one at the contexts that are made again from the keys and parts of the other
(`bind_coarser`).
-/

namespace Disclosure

/-! ### Seats -/

/-- Where a binding holds a fact. -/
structure Seat where
  key : BindingKey
  name : String
  part : Option CoveredPart
deriving DecidableEq

namespace Seat

/-- The seat of a whole context and a unit. -/
def ofContext (c : Context) (unit : Option String) (name : String) : Seat :=
  ⟨⟨some c.period, c.dims, unit⟩, name, none⟩

/-- The context that the key and the covered part of a seat make up. -/
def context? (s : Seat) : Option Context :=
  match s.part with
  | none => s.key.period.map (.ofDimensions · s.key.dims)
  | some (.period period) => some (.ofDimensions period s.key.dims)
  | some (.dims covered) => s.key.period.map (.ofDimensions · (s.key.dims ++ covered))

/-- The seat of the context that a seat makes up. -/
def whole (s : Seat) : Seat :=
  s.context?.elim s fun c => ofContext c s.key.unit s.name

lemma name_whole (s : Seat) : s.whole.name = s.name := by
  rw [whole]
  cases s.context? <;> rfl

lemma ofContext_inj {c c' : Context} {unit unit' : Option String} {name name' : String} :
    ofContext c unit name = ofContext c' unit' name' ↔ c = c' ∧ unit = unit' ∧ name = name' := by
  constructor
  · intro h
    rw [ofContext, ofContext] at h
    cases c
    cases c'
    cases h
    exact ⟨rfl, rfl, rfl⟩
  · rintro ⟨rfl, rfl, rfl⟩
    rfl

end Seat

namespace Bindings

/-- The fact held at a seat. -/
def heldAt (bs : Bindings) (s : Seat) : Option Placed :=
  bs.held? s.key s.name s.part

/-- The seats that are taken. -/
def seats (bs : Bindings) : Set Seat :=
  {s | (bs.heldAt s).isSome}

lemma mem_seats_iff {bs : Bindings} {s : Seat} : s ∈ bs.seats ↔ (bs.heldAt s).isSome := Iff.rfl

/-- All facts in the slots of the bindings. -/
def facts (bs : Bindings) : List Placed :=
  bs.items.flatMap fun b => b.slots.flatMap (·.2.facts)

/-- Facts of a slot are found by their parts. -/
lemma exists_held?_of_mem_facts {a : Alignment} {os : List Offer}
    (hpart : ∀ o ∈ os, o.part.isSome = a.tellsPart) {b : Binding} (hb : b ∈ (ofOffers os).items)
    {s : String × Slot} (hs : s ∈ b.slots) {r : Placed} (hr : r ∈ s.2.facts) :
    ∃ part, s.2.held? part = some r := by
  cases ha : a.tellsPart with
  | false =>
    obtain ⟨f, hslot⟩ := single_of_mem_slots (part_of_single hpart ha) hb hs
    rw [hslot, Slot.facts, List.mem_singleton] at hr
    rw [hslot, hr]
    exact ⟨none, rfl⟩
  | true =>
    have hslot := covered_of_mem_slots (isSome_part_of_covered hpart ha) hb hs
    rw [hslot, Slot.facts, List.mem_map] at hr
    obtain ⟨e, he, rfl⟩ := hr
    rw [hslot]
    exact ⟨some e.1, (Grouping.mem_groups_iff_lookup rfl).1 he⟩

lemma exists_heldAt_of_mem_facts {a : Alignment} {os : List Offer}
    (hpart : ∀ o ∈ os, o.part.isSome = a.tellsPart) {r : Placed} (hr : r ∈ (ofOffers os).facts) :
    ∃ s, (ofOffers os).heldAt s = some r := by
  rw [facts, List.mem_flatMap] at hr
  obtain ⟨b, hb, hr⟩ := hr
  obtain ⟨s, hs, hr⟩ := List.mem_flatMap.1 hr
  obtain ⟨part, hheld⟩ := exists_held?_of_mem_facts hpart hb hs hr
  refine ⟨⟨b.key, s.1, part⟩, ?_⟩
  rw [heldAt, held?, get?_of_mem_items hb, Option.bind_some, slot?_of_mem_slots hb hs,
    Option.bind_some, hheld]

end Bindings

/-! ### The best of fewer facts -/

namespace Placed

variable {fs gs : List Placed} {r : Placed}

/-- What leads a list leads every part of it that it belongs to. -/
lemma Leads.of_subset (h : Leads fs r) (hsub : gs ⊆ fs) (hr : r ∈ gs) : Leads gs r where
  mem := hr
  not_displaced f hf := h.not_displaced f (hsub hf)
  displaces f hf := h.displaces f (hsub hf)

lemma best_of_subset (hfs : Increasing fs) (hgs : Increasing gs) (h : best fs = some r)
    (hsub : gs ⊆ fs) (hr : r ∈ gs) : best gs = some r := by
  have hleads : Leads gs r := (leads_of_best hfs h).of_subset hsub hr
  exact (represents_iff_best hgs).1 (represents_of_leads hleads)

end Placed

/-! ### Policies -/

namespace Policy

/-- The policy with the same demands on facts that covers nothing. -/
def uncovered (p : Policy) : Policy :=
  { p with
    noAdditionalDimensions := false
    coverPeriod := false
    coverDimensions := []
    coverDimensionNames := []
    alignDimensions := none
    coverUnit := false }

lemma alignment_uncovered (p : Policy) : p.uncovered.alignment = .ok .full := rfl

/-- The seat of a fact that a policy admits. -/
def seat? (p : Policy) (a : Alignment) (f : Placed) : Option Seat :=
  (p.admitted? f.fact).map fun c =>
    ⟨(a.keys p c f.fact.unit).1, f.fact.name, (a.keys p c f.fact.unit).2⟩

variable {p : Policy} {a : Alignment} {facts : List Fact} {names : List String} {s : Seat}
  {f g r : Placed}

lemma admitted?_uncovered (h : p.noAdditionalDimensions = false) (f : Fact) :
    p.uncovered.admitted? f = p.admitted? f := by
  have hdims : ∀ dims, p.uncovered.admitsDimensions dims = p.admitsDimensions dims := by
    intro dims
    rw [admitsDimensions, admitsDimensions, h]
    rfl
  rw [admitted?, admitted?]
  simp only [hdims]
  rfl

lemma context_of_admitted? {f : Fact} {c : Context} (h : p.admitted? f = some c) :
    f.context = some c := by
  rw [admitted?] at h
  split_ifs at h
  exact Option.eq_some_of_filter_eq_some h

lemma seat?_uncovered (h : p.noAdditionalDimensions = false) (f : Placed) :
    p.uncovered.seat? .full f =
      (p.admitted? f.fact).map fun c => .ofContext c f.fact.unit f.fact.name := by
  rw [seat?, admitted?_uncovered h]
  rfl

/-- Facts of one context, unit and name share a seat under every policy. -/
lemma seat?_congr (h : p.noAdditionalDimensions = false)
    (hfg : p.uncovered.seat? .full f = p.uncovered.seat? .full g) : p.seat? a f = p.seat? a g := by
  rw [seat?_uncovered h, seat?_uncovered h] at hfg
  rw [seat?, seat?]
  cases hf : p.admitted? f.fact with
  | none =>
    rw [hf, Option.map_none, eq_comm, Option.map_eq_none_iff] at hfg
    rw [hfg]
    rfl
  | some c =>
    rw [hf, Option.map_some, eq_comm, Option.map_eq_some_iff] at hfg
    obtain ⟨c', hg, hseat⟩ := hfg
    obtain ⟨rfl, hunit, hname⟩ := Seat.ofContext_inj.1 hseat
    rw [hg, Option.map_some, Option.map_some, hunit, hname]

/-! ### What is held -/

/-- The admitted facts of a seat, in order. -/
def seated (p : Policy) (a : Alignment) (facts : List Fact) (s : Seat) : List Placed :=
  (Placed.ofFacts facts).filter fun f => p.seat? a f = some s

lemma mem_seated : f ∈ p.seated a facts s ↔ f ∈ Placed.ofFacts facts ∧ p.seat? a f = some s := by
  rw [seated, List.mem_filter, decide_eq_true_iff]

lemma increasing_seated : Placed.Increasing (p.seated a facts s) :=
  List.Pairwise.filter _ (Placed.increasing_ofFacts facts)

lemma seated_eq_classFacts : p.seated a facts s = p.classFacts a facts s.key s.name s.part := by
  refine List.filter_congr fun f _ => ?_
  rw [decide_eq_decide, fits_iff, seat?, Option.map_eq_some_iff]
  constructor
  · rintro ⟨c, hc, rfl⟩
    exact ⟨rfl, c, hc, rfl⟩
  · rintro ⟨hname, c, hc, hkeys⟩
    refine ⟨c, hc, ?_⟩
    rw [hkeys, hname]

lemma heldAt_offers_eq_some_iff :
    (Bindings.ofOffers (p.offers a facts names)).heldAt s = some r ↔
      s.name ∈ names ∧ Placed.best (p.seated a facts s) = some r := by
  rw [Bindings.heldAt, held?_offers, seated_eq_classFacts]
  split_ifs with hname <;> simp [hname]

lemma mem_seats_offers_iff :
    s ∈ (Bindings.ofOffers (p.offers a facts names)).seats ↔
      s.name ∈ names ∧ ∃ f ∈ Placed.ofFacts facts, p.seat? a f = some s := by
  constructor
  · intro hs
    obtain ⟨r, hr⟩ := Option.isSome_iff_exists.1 hs
    obtain ⟨hname, hbest⟩ := heldAt_offers_eq_some_iff.1 hr
    exact ⟨hname, r, mem_seated.1 (Placed.mem_of_best hbest)⟩
  · rintro ⟨hname, f, hf⟩
    have hne : Placed.best (p.seated a facts s) ≠ none := by
      rw [ne_eq, Placed.best_eq_none_iff]
      exact List.ne_nil_of_mem (mem_seated.2 hf)
    obtain ⟨r, hbest⟩ := Option.ne_none_iff_exists'.1 hne
    exact Option.isSome_iff_exists.2 ⟨r, heldAt_offers_eq_some_iff.2 ⟨hname, hbest⟩⟩

/-- A fact is held at its own seat. -/
lemma seat?_of_heldAt (h : (Bindings.ofOffers (p.offers a facts names)).heldAt s = some r) :
    p.seat? a r = some s := by
  rw [heldAt_offers_eq_some_iff] at h
  exact (mem_seated.1 (Placed.mem_of_best h.2)).2

/-! ### Coarser policies -/

/-- The fact held at a seat is the one held at its own seat under the finer policy. -/
lemma heldAt_uncovered (hdims : p.noAdditionalDimensions = false) {t : Seat}
    (h : (Bindings.ofOffers (p.offers a facts names)).heldAt s = some r)
    (ht : p.uncovered.seat? .full r = some t) :
    (Bindings.ofOffers (p.uncovered.offers .full facts names)).heldAt t = some r := by
  have hseat : p.seat? a r = some s := seat?_of_heldAt h
  rw [heldAt_offers_eq_some_iff] at h ⊢
  obtain ⟨hname, hbest⟩ := h
  have hsame : t.name = s.name := by
    obtain ⟨c, -, rfl⟩ := Option.map_eq_some_iff.1 hseat
    obtain ⟨c', -, rfl⟩ := Option.map_eq_some_iff.1 ht
    rfl
  refine ⟨hsame ▸ hname, ?_⟩
  refine Placed.best_of_subset increasing_seated increasing_seated hbest ?_ ?_
  · intro f hf
    obtain ⟨hf, hft⟩ := mem_seated.1 hf
    have hfr : p.seat? a f = p.seat? a r := seat?_congr hdims (hft.trans ht.symm)
    exact mem_seated.2 ⟨hf, hfr.trans hseat⟩
  · have hr : r ∈ Placed.ofFacts facts := (mem_seated.1 (Placed.mem_of_best hbest)).1
    exact mem_seated.2 ⟨hr, ht⟩

/-! ### Policies that tell what they cover -/

/-- Whether a policy covers no more than the period, or axes that it gives in full. -/
structure TellsCovered (p : Policy) : Prop where
  alignDimensions : p.alignDimensions = none
  coverDimensionNames : p.coverDimensionNames = []
  coverUnit : p.coverUnit = false

/-- A key and the covered part that comes with it make up the context. -/
lemma context?_keys (h : p.alignment = .ok a) (htells : p.TellsCovered) (c : Context)
    (unit : Option String) (name : String) :
    Seat.context? ⟨(a.keys p c unit).1, name, (a.keys p c unit).2⟩ = some c := by
  have hwhole : Context.ofDimensions c.period c.dims = c :=
    Context.ofDimensions_of_perm (List.Perm.refl _)
  cases a with
  | full => exact congrArg some hwhole
  | coverPeriod => exact congrArg some hwhole
  | coverDimensions =>
    have hparts := c.ofDimensions_parts fun d => p.coverDimensions.contains d.axis
    simp only [Seat.context?, Alignment.keys, htells.coverDimensionNames, List.contains_nil,
      Bool.not_false, Bool.and_true, Option.map_some, hparts]
  | axes as covered =>
    rw [alignment, htells.alignDimensions] at h
    cases hperiod : p.coverPeriod <;> cases haxes : p.coversAxes <;> simp [hperiod, haxes] at h

/-- The seat of a fact makes up the context of the fact. -/
lemma seat?_uncovered_eq_whole (h : p.alignment = .ok a) (hdims : p.noAdditionalDimensions = false)
    (htells : p.TellsCovered) (f : Placed) :
    p.uncovered.seat? .full f = (p.seat? a f).map Seat.whole := by
  rw [seat?_uncovered hdims, seat?, Option.map_map]
  refine Option.map_congr fun c _ => ?_
  have hunit : (a.keys p c f.fact.unit).1.unit = f.fact.unit := by
    cases a <;> simp [Alignment.keys, htells.coverUnit]
  rw [Function.comp_apply, Seat.whole, context?_keys h htells, Option.elim_some, hunit]

lemma heldAt_whole (h : p.alignment = .ok a) (hdims : p.noAdditionalDimensions = false)
    (htells : p.TellsCovered) (hs : s ∈ (Bindings.ofOffers (p.offers a facts names)).seats) :
    (Bindings.ofOffers (p.uncovered.offers .full facts names)).heldAt s.whole =
      (Bindings.ofOffers (p.offers a facts names)).heldAt s := by
  obtain ⟨r, hr⟩ := Option.isSome_iff_exists.1 hs
  have hseat : p.uncovered.seat? .full r = some s.whole := by
    rw [seat?_uncovered_eq_whole h hdims htells, seat?_of_heldAt hr, Option.map_some]
  rw [hr]
  exact heldAt_uncovered hdims hr hseat

lemma context?_of_mem_seats (h : p.alignment = .ok a) (htells : p.TellsCovered)
    (hs : s ∈ (Bindings.ofOffers (p.offers a facts names)).seats) :
    ∃ c, s.context? = some c := by
  obtain ⟨-, f, -, hf⟩ := mem_seats_offers_iff.1 hs
  obtain ⟨c, -, rfl⟩ := Option.map_eq_some_iff.1 hf
  exact ⟨c, context?_keys h htells c f.fact.unit f.fact.name⟩

lemma bijOn_whole (h : p.alignment = .ok a) (hdims : p.noAdditionalDimensions = false)
    (htells : p.TellsCovered) :
    Set.BijOn Seat.whole (Bindings.ofOffers (p.offers a facts names)).seats
      (Bindings.ofOffers (p.uncovered.offers .full facts names)).seats := by
  refine ⟨?mapsTo, ?injOn, ?surjOn⟩
  case mapsTo =>
    intro s hs
    rw [Bindings.mem_seats_iff, heldAt_whole h hdims htells hs]
    exact hs
  case injOn =>
    -- seats that make up the same context hold the same fact, and a fact has one seat
    intro s hs s' hs' heq
    obtain ⟨r, hr⟩ := Option.isSome_iff_exists.1 hs
    obtain ⟨r', hr'⟩ := Option.isSome_iff_exists.1 hs'
    have hsame : some r = some r' := by
      rw [← hr, ← hr', ← heldAt_whole h hdims htells hs, ← heldAt_whole h hdims htells hs', heq]
    obtain rfl := Option.some.inj hsame
    exact Option.some.inj ((seat?_of_heldAt hr).symm.trans (seat?_of_heldAt hr'))
  case surjOn =>
    intro t ht
    obtain ⟨hname, f, hf, hft⟩ := mem_seats_offers_iff.1 ht
    rw [seat?_uncovered_eq_whole h hdims htells, Option.map_eq_some_iff] at hft
    obtain ⟨s, hfs, rfl⟩ := hft
    refine ⟨s, mem_seats_offers_iff.2 ⟨?_, f, hf, hfs⟩, rfl⟩
    rwa [Seat.name_whole] at hname

end Policy

/--
A policy that covers more holds no other facts: each one that it holds is also held, for its own
context and unit, under the policy that covers nothing. Where the covered part is told, both
policies hold the same facts, those of the one at the contexts that the seats of the other make up.
-/
theorem bind_coarser {p : Policy} {a : Alignment} (h : p.alignment = .ok a)
    (hdims : p.noAdditionalDimensions = false) (facts : List Fact) (names : List String) :
    ∃ bs fs, (FactStore.ofList facts).bind names p = .ok bs ∧
      (FactStore.ofList facts).bind names p.uncovered = .ok fs ∧
      (∀ r ∈ bs.facts, ∃ c, r.fact.context = some c ∧
        fs.heldAt (.ofContext c r.fact.unit r.fact.name) = some r) ∧
      (p.TellsCovered →
        (∀ s ∈ bs.seats, ∃ c, s.context? = some c ∧
          fs.heldAt (.ofContext c s.key.unit s.name) = bs.heldAt s) ∧
        Set.BijOn Seat.whole bs.seats fs.seats) := by
  refine ⟨_, _, FactStore.bind_ofList h facts names,
    FactStore.bind_ofList p.alignment_uncovered facts names, ?_, ?_⟩
  · intro r hr
    obtain ⟨s, hs⟩ := Bindings.exists_heldAt_of_mem_facts Policy.isSome_part_of_mem hr
    obtain ⟨c, hc, -⟩ := Option.map_eq_some_iff.1 (Policy.seat?_of_heldAt hs)
    have hseat : p.uncovered.seat? .full r = some (.ofContext c r.fact.unit r.fact.name) := by
      rw [Policy.seat?_uncovered hdims, hc, Option.map_some]
    exact ⟨c, Policy.context_of_admitted? hc, Policy.heldAt_uncovered hdims hs hseat⟩
  · intro htells
    refine ⟨fun s hs => ?_, Policy.bijOn_whole h hdims htells⟩
    obtain ⟨c, hc⟩ := Policy.context?_of_mem_seats h htells hs
    have hwhole : s.whole = .ofContext c s.key.unit s.name := by
      rw [Seat.whole, hc, Option.elim_some]
    refine ⟨c, hc, ?_⟩
    rw [← hwhole]
    exact Policy.heldAt_whole h hdims htells hs

/-- An axis, and a concept that is a member on it or another axis. -/
def sampleConcept (name : String) : Concept := ⟨"http://example.com/2024", name⟩

/-- Sales of the first day, broken down by these members. -/
def salesOf (members : List (String × String)) : Fact :=
  { sampleFact "Sales" (.text "10") firstDay (.places 0) with
    context := some (.ofDimensions firstDay
      (members.map fun m => ⟨sampleConcept m.1, .explicit (sampleConcept m.2)⟩)) }

/-- Sales by product, by product and region, and by region. -/
def salesFacts : List Fact :=
  [salesOf [("Product", "Tea")], salesOf [("Region", "North"), ("Product", "Tea")],
    salesOf [("Product", "Coffee")], salesOf [("Region", "North")], salesOf [("Product", "Tea")]]

/-- The policy that binds the facts of all products. -/
def overProducts : Policy := { coverDimensions := [sampleConcept "Product"] }

theorem bind_coarser_products :
    overProducts.alignment = .ok .coverDimensions ∧
      overProducts.noAdditionalDimensions = false ∧ overProducts.TellsCovered ∧
      ∃ bs fs, (FactStore.ofList salesFacts).bind ["Sales"] overProducts = .ok bs ∧
        (FactStore.ofList salesFacts).bind ["Sales"] overProducts.uncovered = .ok fs ∧
        bs.facts.map (·.position) = [0, 2, 1, 3] ∧
        (∀ r ∈ bs.facts, ∃ c, r.fact.context = some c ∧
          fs.heldAt (.ofContext c r.fact.unit r.fact.name) = some r) ∧
        (∀ s ∈ bs.seats, ∃ c, s.context? = some c ∧
          fs.heldAt (.ofContext c s.key.unit s.name) = bs.heldAt s) ∧
        Set.BijOn Seat.whole bs.seats fs.seats := by
  have hplaces : ((FactStore.ofList salesFacts).bind ["Sales"] overProducts).toOption.map
      (fun bs => bs.facts.map (·.position)) = some [0, 2, 1, 3] := by
    decide
  have halign : overProducts.alignment = .ok .coverDimensions := rfl
  have hdims : overProducts.noAdditionalDimensions = false := rfl
  have htells : overProducts.TellsCovered := ⟨rfl, rfl, rfl⟩
  obtain ⟨bs, fs, hbs, hfs, hheld, hwhole⟩ := bind_coarser halign hdims salesFacts ["Sales"]
  rw [hbs] at hplaces
  exact ⟨halign, hdims, htells, bs, fs, hbs, hfs, Option.some.inj hplaces, hheld, hwhole htells⟩

end Disclosure
