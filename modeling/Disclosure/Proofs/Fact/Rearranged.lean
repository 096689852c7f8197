import Mathlib.Logic.Equiv.Basic
import Disclosure.Proofs.Fact.Moved
import Disclosure.Proofs.Fact.Representative

/-!
# Rearranged requests and facts

Where facts are held depends on which facts are admitted and which names are asked for, but not on
the order of either (`offered_iff`, `Bindings.Matches`). Which fact is held for a class does not
depend on the order of the names at all; the order of the facts decides only among the finest facts
of the class, which are alike in having a value and in precision (`Finest.alike`).
-/

namespace Disclosure

open scoped List

/-! ### The places of a slot -/

/-- The parts that a slot holds facts under; a single fact is held under none. -/
def Slot.parts : Slot → List (Option CoveredPart)
  | .single _ => [none]
  | .covered held => held.map fun e => some e.1

/-- Whether a fact is offered under a key, a name and a part. -/
def Offered (os : List Offer) (key : BindingKey) (name : String) (part : Option CoveredPart) :
    Prop :=
  ∃ o ∈ os, o.key = key ∧ o.name = name ∧ o.part = part

namespace Bindings

/--
Whether bindings hold facts in the same places: under the same keys, the same names for each key,
and the same parts for each name, all in whatever order.
-/
structure Matches (bs bs' : Bindings) : Prop where
  keys : bs.items.map (·.key) ~ bs'.items.map (·.key)
  names : ∀ b ∈ bs.items, ∀ b' ∈ bs'.items, b.key = b'.key →
    b.slots.map Prod.fst ~ b'.slots.map Prod.fst
  parts : ∀ b ∈ bs.items, ∀ b' ∈ bs'.items, b.key = b'.key →
    ∀ s ∈ b.slots, ∀ s' ∈ b'.slots, s.1 = s'.1 → s.2.parts ~ s'.2.parts

variable {a : Alignment} {os os' : List Offer} {bs bs' : Bindings}

lemma Accounts.mem_keys_iff (h : bs.Accounts a os) (key : BindingKey) :
    key ∈ bs.items.map (·.key) ↔ ∃ name part, Offered os key name part := by
  rw [h.keys_eq, List.mem_eraseDups, List.mem_map]
  constructor
  · rintro ⟨o, ho, hkey⟩
    exact ⟨o.name, o.part, o, ho, hkey, rfl, rfl⟩
  · rintro ⟨_, _, o, ho, hkey, -, -⟩
    exact ⟨o, ho, hkey⟩

lemma Accounts.mem_names_iff (h : bs.Accounts a os) {b : Binding} (hb : b ∈ bs.items)
    (name : String) : name ∈ b.slots.map Prod.fst ↔ ∃ part, Offered os b.key name part := by
  rw [h.mem_names b hb]
  constructor
  · rintro ⟨o, ho, hkey, hname⟩
    exact ⟨o.part, o, ho, hkey, hname, rfl⟩
  · rintro ⟨_, o, ho, hkey, hname, -⟩
    exact ⟨o, ho, hkey, hname⟩

/-- Bindings of offers under the same keys, names and parts match. -/
lemma Accounts.matches (h : bs.Accounts a os) (h' : bs'.Accounts a os')
    (hsame : ∀ key name part, Offered os key name part ↔ Offered os' key name part) :
    bs.Matches bs' := by
  refine ⟨?keys, ?names, ?parts⟩
  case keys =>
    rw [List.perm_ext_iff_of_nodup h.nodup_keys h'.nodup_keys]
    intro key
    simp only [h.mem_keys_iff, h'.mem_keys_iff, hsame]
  case names =>
    intro b hb b' hb' hkey
    rw [List.perm_ext_iff_of_nodup (h.nodup_names b hb) (h'.nodup_names b' hb')]
    intro name
    simp only [h.mem_names_iff hb, h'.mem_names_iff hb', hkey, hsame]
  case parts =>
    intro b hb b' hb' hkey s hs s' hs' hname
    cases ha : a.tellsPart with
    | false =>
      obtain ⟨f, hf⟩ := h.single ha b hb s hs
      obtain ⟨f', hf'⟩ := h'.single ha b' hb' s' hs'
      rw [hf, hf']
      exact List.Perm.refl _
    | true =>
      obtain ⟨held, hheld, hnodup, hmem⟩ := h.covered ha b hb s hs
      obtain ⟨held', hheld', hnodup', hmem'⟩ := h'.covered ha b' hb' s' hs'
      have hparts : held.map Prod.fst ~ held'.map Prod.fst := by
        rw [List.perm_ext_iff_of_nodup hnodup hnodup']
        intro part
        rw [hmem, hmem', ← hkey, ← hname]
        exact hsame b.key s.1 (some part)
      have hsome := hparts.map some
      rw [List.map_map, List.map_map] at hsome
      rw [hheld, hheld']
      exact hsome

/-- Where nothing is offered, nothing is held. -/
lemma held?_eq_none_iff (hpart : ∀ o ∈ os, o.part.isSome = a.tellsPart) {key : BindingKey}
    {name : String} {part : Option CoveredPart} :
    (ofOffers os).held? key name part = none ↔ ¬ Offered os key name part := by
  rw [held?_ofOffers hpart, Placed.best_eq_none_iff, List.map_eq_nil_iff, List.filter_eq_nil_iff]
  simp [Offered]

end Bindings

/-! ### Offers -/

namespace Policy

variable {p : Policy} {a : Alignment} {facts facts' : List Fact} {names : List String}
  {key : BindingKey} {name : String} {part : Option CoveredPart}

/-- What is offered hangs on the facts and the names that there are. -/
lemma offered_iff : Offered (p.offers a facts names) key name part ↔
    name ∈ names ∧ ∃ f ∈ facts, f.name = name ∧
      ∃ c, p.admitted? f = some c ∧ a.keys p c f.unit = (key, part) := by
  constructor
  · rintro ⟨o, ho, rfl, rfl, rfl⟩
    obtain ⟨hplace, hname, hoffer⟩ := mem_offers.1 ho
    obtain ⟨c, hc, ho⟩ := Option.map_eq_some_iff.1 hoffer
    refine ⟨hname, o.fact.fact, List.mem_of_getElem? hplace, rfl, c, hc, ?_⟩
    rw [← ho]
  · rintro ⟨hname, f, hf, rfl, c, hc, hkeys⟩
    obtain ⟨i, hi⟩ := List.mem_iff_getElem?.1 hf
    refine ⟨⟨⟨i, f⟩, key, part⟩, mem_offers.2 ⟨hi, hname, ?_⟩, rfl, rfl, rfl⟩
    rw [offer?, hc, Option.map_some, hkeys]

end Policy

/-! ### Moved classes -/

section Finest

variable {C C' : Placed → Prop} {f g : Placed}

/-- The finest facts of a class all have a value of the same precision, or none has a value. -/
lemma Finest.alike (hf : Finest C f) (hg : Finest C g) :
    g.fact.isNil = f.fact.isNil ∧ (¬ f.fact.isNil → g.fact.precision = f.fact.precision) := by
  obtain ⟨hfC, hf⟩ := hf
  obtain ⟨hgC, hg⟩ := hg
  by_cases hfnil : f.fact.isNil
  · rw [if_pos hfnil] at hf
    exact ⟨(hf g hgC).trans hfnil.symm, absurd hfnil⟩
  · by_cases hgnil : g.fact.isNil
    · rw [if_pos hgnil] at hg
      exact absurd (hg f hfC) hfnil
    · rw [if_neg hfnil] at hf
      rw [if_neg hgnil] at hg
      refine ⟨by simp [hfnil, hgnil], fun _ => ?_⟩
      exact Precision.atMost_antisymm (hf g hgC hgnil) (hg f hfC hfnil)

/-- If a single finest fact has a value, there is no other finest fact. -/
lemma Finest.eq_of_unique (h : ∃! r, Finest C r ∧ ¬ r.fact.isNil) (hf : Finest C f)
    (hg : Finest C g) : g = f := by
  obtain ⟨r, ⟨hr, hnil⟩, hunique⟩ := h
  have hvalue : ∀ s, Finest C s → s = r := by
    intro s hs
    apply hunique s
    rw [(hr.alike hs).1]
    exact ⟨hs, hnil⟩
  rw [hvalue f hf, hvalue g hg]

/-- The finest facts of a class are moved with it. -/
lemma Finest.of_moved {σ : Equiv.Perm Nat} (hC : ∀ f, C' (f.moved σ) ↔ C f)
    (h : Finest C' (f.moved σ)) : Finest C f := by
  obtain ⟨hf, h⟩ := h
  refine ⟨(hC f).1 hf, ?_⟩
  rw [Placed.fact_moved] at h
  split_ifs at h ⊢ with hnil
  · intro g hg
    exact h (g.moved σ) ((hC g).2 hg)
  · intro g hg
    exact h (g.moved σ) ((hC g).2 hg)

end Finest

/--
Whether one fact represents a class and the other the class after its facts are moved: both have a
value of the same precision, or none has a value, and they are the same fact if a single one of the
class is finest among those with a value.
-/
structure Recurs (C : Placed → Prop) (σ : Nat → Nat) (r r' : Placed) : Prop where
  isNil_eq : r'.fact.isNil = r.fact.isNil
  precision_eq : ¬ r.fact.isNil → r'.fact.precision = r.fact.precision
  eq_moved : (∃! f, Finest C f ∧ ¬ f.fact.isNil) → r' = r.moved σ

lemma Finest.recurs {C C' : Placed → Prop} {σ : Equiv.Perm Nat} {r r' : Placed}
    (hC : ∀ f, C' (f.moved σ) ↔ C f) (hr : Finest C r) (hr' : Finest C' r') :
    Recurs C σ r r' := by
  obtain ⟨g, rfl⟩ : ∃ g : Placed, r' = g.moved σ := by
    refine ⟨r'.moved σ.symm, ?_⟩
    simp [Placed.moved]
  have hg : Finest C g := hr'.of_moved hC
  obtain ⟨hnil, hprecision⟩ := hr.alike hg
  refine ⟨hnil, hprecision, fun hunique => ?_⟩
  rw [hr.eq_of_unique hunique hg]

/-! ### Binding -/

namespace Policy

variable {p : Policy} {a : Alignment} {facts facts' : List Fact} {names : List String}
  {key : BindingKey} {name : String} {part : Option CoveredPart} {σ : Equiv.Perm Nat}

lemma finest_of_held? {r : Placed}
    (h : (Bindings.ofOffers (p.offers a facts names)).held? key name part = some r) :
    Finest (p.InClass a facts names key name part) r := by
  rw [held?_offers] at h
  split_ifs at h with hname
  have hclass : p.InClass a facts names key name part =
      (· ∈ p.classFacts a facts key name part) :=
    funext fun f => propext (mem_classFacts hname).symm
  rw [hclass]
  exact ((represents_iff_best increasing_classFacts).2 h).1

lemma inClass_moved_iff (hσ : ∀ i, facts'[σ i]? = facts[i]?) (f : Placed) :
    p.InClass a facts' names key name part (f.moved σ) ↔
      p.InClass a facts names key name part f := by
  rw [InClass, InClass, Placed.position_moved, Placed.fact_moved, hσ]

lemma mem_iff_of_moved (hσ : ∀ i, facts'[σ i]? = facts[i]?) (f : Fact) :
    f ∈ facts' ↔ f ∈ facts := by
  rw [List.mem_iff_getElem?, List.mem_iff_getElem?, σ.surjective.exists]
  simp only [hσ]

lemma rel_held?_of_moved (hσ : ∀ i, facts'[σ i]? = facts[i]?)
    (hsame : Offered (p.offers a facts names) key name part ↔
      Offered (p.offers a facts' names) key name part) :
    Option.Rel (Recurs (p.InClass a facts names key name part) σ)
      ((Bindings.ofOffers (p.offers a facts names)).held? key name part)
      ((Bindings.ofOffers (p.offers a facts' names)).held? key name part) := by
  have hnone : (Bindings.ofOffers (p.offers a facts names)).held? key name part = none ↔
      (Bindings.ofOffers (p.offers a facts' names)).held? key name part = none := by
    rw [offers, offers, Bindings.held?_eq_none_iff isSome_part_of_mem,
      Bindings.held?_eq_none_iff isSome_part_of_mem]
    exact not_congr hsame
  cases hr : (Bindings.ofOffers (p.offers a facts names)).held? key name part with
  | none =>
    rw [hnone.1 hr]
    exact .none
  | some r =>
    cases hr' : (Bindings.ofOffers (p.offers a facts' names)).held? key name part with
    | none =>
      rw [hnone.2 hr'] at hr
      cases hr
    | some r' =>
      exact .some ((finest_of_held? hr).recurs (inClass_moved_iff hσ) (finest_of_held? hr'))

end Policy

/--
Rearranged requests and facts are bound alike. Names in another order, or repeated, change no more
than the order of the bindings. Facts in another order leave all keys, names and parts, and for each
class a representative with a value or without one as before, of the same precision, and the same
fact where there was no choice.
-/
theorem bind_rearranged {p : Policy} {a : Alignment} (h : p.alignment = .ok a)
    (facts : List Fact) (names : List String) :
    ∃ bs, (FactStore.ofList facts).bind names p = .ok bs ∧
      (∀ names', (∀ name, name ∈ names' ↔ name ∈ names) →
        ∃ bs', (FactStore.ofList facts).bind names' p = .ok bs' ∧ bs.Matches bs' ∧
          ∀ key name part, bs'.held? key name part = bs.held? key name part) ∧
      ∀ (σ : Equiv.Perm Nat) (facts' : List Fact), (∀ i, facts'[σ i]? = facts[i]?) →
        ∃ bs', (FactStore.ofList facts').bind names p = .ok bs' ∧ bs.Matches bs' ∧
          ∀ key name part, Option.Rel (Recurs (p.InClass a facts names key name part) σ)
            (bs.held? key name part) (bs'.held? key name part) := by
  refine ⟨_, FactStore.bind_ofList h facts names, ?requests, ?facts⟩
  case requests =>
    intro names' hnames
    have hsame : ∀ key name part, Offered (p.offers a facts names) key name part ↔
        Offered (p.offers a facts names') key name part := by
      intro key name part
      rw [Policy.offered_iff, Policy.offered_iff, hnames]
    refine ⟨_, FactStore.bind_ofList h facts names', ?_, fun key name part => ?_⟩
    · exact (Bindings.accounts_ofOffers Policy.isSome_part_of_mem).matches
        (Bindings.accounts_ofOffers Policy.isSome_part_of_mem) hsame
    · simp only [Policy.held?_offers, hnames]
  case facts =>
    intro σ facts' hσ
    have hsame : ∀ key name part, Offered (p.offers a facts names) key name part ↔
        Offered (p.offers a facts' names) key name part := by
      intro key name part
      simp only [Policy.offered_iff, Policy.mem_iff_of_moved hσ]
    refine ⟨_, FactStore.bind_ofList h facts' names, ?_, fun key name part => ?_⟩
    · exact (Bindings.accounts_ofOffers Policy.isSome_part_of_mem).matches
        (Bindings.accounts_ofOffers Policy.isSome_part_of_mem) hsame
    · exact Policy.rel_held?_of_moved hσ (hsame key name part)

/-- The sample facts, the first and the last in exchanged places. -/
def swappedFacts : List Fact :=
  [sampleFact "Assets" (.text "1024") firstDay (.places 0),
    sampleFact "Assets" (.text "1000") firstDay (.places (-3)),
    sampleFact "Debts" (.text "700") firstDay (.places 0),
    sampleFact "Assets" (.text "1200") secondDay (.places 0),
    sampleFact "Assets" .nil firstDay .exact]

lemma getElem?_swappedFacts (i : Nat) :
    swappedFacts[Equiv.swap 0 4 i]? = sampleFacts[i]? := by
  match i with
  | 0 | 1 | 2 | 3 | 4 => rfl
  | n + 5 =>
    rw [Equiv.swap_apply_of_ne_of_ne (by omega) (by omega)]
    rfl

theorem bind_rearranged_assets :
    Policy.alignment { includeNils := true } = .ok .full ∧
    (∀ name, name ∈ ["Debts", "Assets", "Debts"] ↔ name ∈ ["Assets", "Debts"]) ∧
    (∀ i, swappedFacts[Equiv.swap 0 4 i]? = sampleFacts[i]?) ∧
    ∃ bs bs' bs'' : Bindings,
      (FactStore.ofList sampleFacts).bind ["Assets", "Debts"] { includeNils := true } = .ok bs ∧
      (FactStore.ofList sampleFacts).bind ["Debts", "Assets", "Debts"] { includeNils := true } =
        .ok bs' ∧
      (FactStore.ofList swappedFacts).bind ["Assets", "Debts"] { includeNils := true } =
        .ok bs'' ∧
      bs.Matches bs' ∧ (∀ key name part, bs'.held? key name part = bs.held? key name part) ∧
      bs.Matches bs'' ∧ ∀ key name part,
        Option.Rel (Recurs (Policy.InClass { includeNils := true } .full sampleFacts
            ["Assets", "Debts"] key name part) (Equiv.swap 0 4))
          (bs.held? key name part) (bs''.held? key name part) := by
  have hnames : ∀ name, name ∈ ["Debts", "Assets", "Debts"] ↔ name ∈ ["Assets", "Debts"] := by
    intro name
    simp only [List.mem_cons, List.not_mem_nil, or_false]
    tauto
  obtain ⟨bs, hbs, hrequests, hfacts⟩ := bind_rearranged (p := { includeNils := true }) rfl
    sampleFacts ["Assets", "Debts"]
  obtain ⟨bs', hbs', hmatches', hheld'⟩ := hrequests _ hnames
  obtain ⟨bs'', hbs'', hmatches'', hheld''⟩ := hfacts _ _ getElem?_swappedFacts
  exact ⟨rfl, hnames, getElem?_swappedFacts, bs, bs', bs'', hbs, hbs', hbs'', hmatches', hheld',
    hmatches'', hheld''⟩

/-- The finest assets of the first day stand last at first, and then in front. -/
example :
    [sampleFacts, swappedFacts].map (fun facts =>
      ((FactStore.ofList facts).bind ["Assets"] { includeNils := true }).toOption.bind fun bs =>
        (bs.held? ⟨some firstDay, [], some "USD"⟩ "Assets" none).map (·.position)) =
      [some 4, some 0] := by
  decide

end Disclosure
