import Disclosure.Fact.Policy

/-!
# Bindings

Facts grouped by the key of a policy. A binding holds one fact for every name, or one for every
name and covered part: the most precise one that has a value, and of equally precise ones the
first.
-/

namespace Disclosure

/-- Whether a fact takes the place of the one held. -/
def Fact.displaces (candidate held : Fact) : Bool :=
  !candidate.isNil && (held.isNil || held.precision.lt candidate.precision)

/-- The fact to hold of one held and one offered. -/
def Placed.better (held candidate : Placed) : Placed :=
  if candidate.fact.displaces held.fact then candidate else held

/-- The fact of a name, or the facts of a name by their covered parts. -/
inductive Slot where
  | single (held : Placed)
  | covered (held : List (CoveredPart × Placed))

namespace Slot

/-- A slot with its first fact. -/
def ofFact (f : Placed) : Option CoveredPart → Slot
  | none => .single f
  | some part => .covered [(part, f)]

/-- Add a fact under a covered part. -/
def addUnder (part : CoveredPart) (f : Placed) :
    List (CoveredPart × Placed) → List (CoveredPart × Placed)
  | [] => [(part, f)]
  | (p, held) :: rest =>
    if p = part then (p, held.better f) :: rest else (p, held) :: addUnder part f rest

/-- Add a fact to a slot. All facts of a binding have a covered part, or none has. -/
def add (f : Placed) (part : Option CoveredPart) : Slot → Slot
  | .single held => .single (held.better f)
  | .covered held =>
    match part with
    | some part => .covered (addUnder part f held)
    | none => .covered held

/-- The facts in a slot. -/
def facts : Slot → List Placed
  | .single held => [held]
  | .covered held => held.map (·.2)

end Slot

/-- Facts with one key, by their names. -/
structure Binding where
  key : BindingKey
  slots : List (String × Slot)

namespace Binding

/-- Add a fact to the slot of its name. -/
def addTo (name : String) (f : Placed) (part : Option CoveredPart) :
    List (String × Slot) → List (String × Slot)
  | [] => [(name, .ofFact f part)]
  | (n, slot) :: rest =>
    if n = name then (n, slot.add f part) :: rest
    else (n, slot) :: addTo name f part rest

/-- Add a fact to a binding. -/
def add (b : Binding) (f : Placed) (part : Option CoveredPart) : Binding :=
  { b with slots := addTo f.fact.name f part b.slots }

/-- The number of slots. -/
def size (b : Binding) : Nat :=
  b.slots.length

/-- Whether there are no slots. -/
def isEmpty (b : Binding) : Bool :=
  b.slots.isEmpty

/-- The slot of a name. -/
def slot? (b : Binding) (name : String) : Option Slot :=
  b.slots.lookup name

/-- The slots of the given names; without names, all slots. -/
def slotsNamed (b : Binding) (names : List String) : List Slot :=
  if names.isEmpty then b.slots.map (·.2) else names.filterMap b.slot?

/-- The least precision in the slots of the given names; without names, in all slots. -/
def leastPrecision (b : Binding) (names : List String) : Precision :=
  Disclosure.leastPrecision (((b.slotsNamed names).flatMap Slot.facts).map (·.fact))

end Binding

/--
The bindings of a request, in the order in which their keys first appeared, with an index of their
places by key.
-/
structure Bindings where
  items : List Binding
  index : List (BindingKey × Nat)

namespace Bindings

/-- No bindings. -/
def empty : Bindings := ⟨[], []⟩

/-- The place of the binding with a key. -/
def place? (bs : Bindings) (key : BindingKey) : Option Nat :=
  bs.index.lookup key

/-- Add a fact to the binding with a key; a new key gets a binding at the end. -/
def add (bs : Bindings) (key : BindingKey) (f : Placed) (part : Option CoveredPart) : Bindings :=
  match bs.place? key with
  | some i => { bs with items := bs.items.modify i (·.add f part) }
  | none =>
    { items := bs.items ++ [Binding.add ⟨key, []⟩ f part]
      index := (key, bs.items.length) :: bs.index }

/-- The number of bindings. -/
def size (bs : Bindings) : Nat :=
  bs.items.length

/-- Whether there are no bindings. -/
def isEmpty (bs : Bindings) : Bool :=
  bs.items.isEmpty

/-- The binding with a key. -/
def get? (bs : Bindings) (key : BindingKey) : Option Binding :=
  (bs.place? key).bind (bs.items[·]?)

end Bindings

namespace FactStore

/-- Add a fact to bindings, if the policy admits it. -/
def bindFact (p : Policy) (a : Alignment) (bs : Bindings) (f : Placed) : Bindings :=
  match p.admitted? f.fact with
  | none => bs
  | some c =>
    let (key, part) := a.keys p c f.fact.unit
    bs.add key f part

/-- Bind the facts of the given names, in the order of the names and then of the facts. -/
def bind (s : FactStore) (names : List String) (p : Policy) : Except PolicyFault Bindings := do
  let a ← p.alignment
  return (names.flatMap s.named).foldl (bindFact p a) .empty

end FactStore

end Disclosure
