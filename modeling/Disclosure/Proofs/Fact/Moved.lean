import Mathlib.Data.List.Basic
import Disclosure.Fact.Binding

/-!
# Facts at other positions

Binding takes facts in the order in which they are met and looks at nothing else of their positions.
So if facts move to other positions, the bindings are the same with the facts moved
(`moved_foldl_bindFact`).
-/

namespace Disclosure

variable {σ : Nat → Nat}

/-! ### Facts -/

namespace Placed

/-- A fact at another position. -/
def moved (σ : Nat → Nat) (f : Placed) : Placed := ⟨σ f.position, f.fact⟩

@[simp] lemma fact_moved (f : Placed) : (f.moved σ).fact = f.fact := rfl

@[simp] lemma position_moved (f : Placed) : (f.moved σ).position = σ f.position := rfl

@[simp] lemma moved_better (held f : Placed) :
    (held.better f).moved σ = (held.moved σ).better (f.moved σ) := by
  rw [better, better]
  show (if f.fact.displaces held.fact then f else held).moved σ =
    if f.fact.displaces held.fact then f.moved σ else held.moved σ
  split_ifs <;> rfl

end Placed

/-! ### Slots -/

namespace Slot

/-- A slot of moved facts. -/
def moved (σ : Nat → Nat) : Slot → Slot
  | .single held => .single (held.moved σ)
  | .covered held => .covered (held.map fun e => (e.1, e.2.moved σ))

@[simp] lemma moved_ofFact (f : Placed) (part : Option CoveredPart) :
    (ofFact f part).moved σ = ofFact (f.moved σ) part := by
  cases part <;> rfl

lemma map_addUnder (part : CoveredPart) (f : Placed) (held : List (CoveredPart × Placed)) :
    (addUnder part f held).map (fun e => (e.1, e.2.moved σ)) =
      addUnder part (f.moved σ) (held.map fun e => (e.1, e.2.moved σ)) := by
  induction held with
  | nil => rfl
  | cons e held ih =>
    obtain ⟨q, g⟩ := e
    by_cases hq : q = part
    · simp [addUnder, hq]
    · simp [addUnder, hq, ih]

@[simp] lemma moved_add (f : Placed) (part : Option CoveredPart) (slot : Slot) :
    (slot.add f part).moved σ = (slot.moved σ).add (f.moved σ) part := by
  cases slot with
  | single held => simp [add, moved]
  | covered held =>
    cases part with
    | none => rfl
    | some part => simp [add, moved, map_addUnder]

end Slot

/-! ### Bindings -/

namespace Binding

/-- A binding of moved facts. -/
def moved (σ : Nat → Nat) (b : Binding) : Binding :=
  { b with slots := b.slots.map fun s => (s.1, s.2.moved σ) }

lemma map_addTo (name : String) (f : Placed) (part : Option CoveredPart)
    (slots : List (String × Slot)) :
    (addTo name f part slots).map (fun s => (s.1, s.2.moved σ)) =
      addTo name (f.moved σ) part (slots.map fun s => (s.1, s.2.moved σ)) := by
  induction slots with
  | nil => simp [addTo]
  | cons s slots ih =>
    obtain ⟨n, slot⟩ := s
    by_cases hn : n = name
    · simp [addTo, hn]
    · simp [addTo, hn, ih]

@[simp] lemma moved_add (b : Binding) (f : Placed) (part : Option CoveredPart) :
    (b.add f part).moved σ = (b.moved σ).add (f.moved σ) part := by
  simp only [add, moved, map_addTo, Placed.fact_moved]

end Binding

namespace Bindings

/-- Bindings of moved facts. -/
def moved (σ : Nat → Nat) (bs : Bindings) : Bindings :=
  { bs with items := bs.items.map (·.moved σ) }

lemma moved_add (bs : Bindings) (key : BindingKey) (f : Placed) (part : Option CoveredPart) :
    (bs.add key f part).moved σ = (bs.moved σ).add key (f.moved σ) part := by
  have hplace : (bs.moved σ).place? key = bs.place? key := rfl
  rw [add, add, hplace]
  cases bs.place? key with
  | none =>
    have hnew : (Binding.add ⟨key, []⟩ f part).moved σ =
        Binding.add ⟨key, []⟩ (f.moved σ) part := Binding.moved_add _ f part
    simp [moved, hnew]
  | some i =>
    have hmap : (bs.items.modify i (·.add f part)).map (·.moved σ) =
        (bs.items.map (·.moved σ)).modify i (·.add (f.moved σ) part) := by
      apply List.ext_getElem?
      intro j
      by_cases hj : i = j <;> simp [hj, Function.comp_def]
    simp only [moved, hmap]

end Bindings

/-! ### Runs -/

namespace FactStore

variable {p : Policy} {a : Alignment}

lemma moved_bindFact (bs : Bindings) (f : Placed) :
    (bindFact p a bs f).moved σ = bindFact p a (bs.moved σ) (f.moved σ) := by
  rw [bindFact, bindFact, Placed.fact_moved]
  cases p.admitted? f.fact with
  | none => rfl
  | some c => exact bs.moved_add _ f _

/-- The bindings of moved facts are the moved bindings. -/
lemma moved_foldl_bindFact (fs : List Placed) (bs : Bindings) :
    (fs.foldl (bindFact p a) bs).moved σ =
      (fs.map (·.moved σ)).foldl (bindFact p a) (bs.moved σ) := by
  induction fs generalizing bs with
  | nil => rfl
  | cons f fs ih => rw [List.foldl_cons, List.map_cons, List.foldl_cons, ih, moved_bindFact]

end FactStore

end Disclosure
