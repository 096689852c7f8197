import Disclosure.Fact.Basic

/-!
# Stores of facts

The facts of a submission in the order in which they were added. An index by name holds the
positions of the facts of every name.
-/

namespace Disclosure

/-- A fact with its position in a store. -/
structure Placed where
  position : Nat
  fact : Fact
deriving DecidableEq

/-- Facts in order, with an index of their positions by name. -/
structure FactStore where
  facts : List Fact
  index : List (String × List Nat)

namespace FactStore

/-- No facts. -/
def empty : FactStore := ⟨[], []⟩

/-- Append a position under a name of an index. -/
def addPosition (name : String) (position : Nat) :
    List (String × List Nat) → List (String × List Nat)
  | [] => [(name, [position])]
  | (n, ps) :: rest =>
    if n = name then (n, ps ++ [position]) :: rest
    else (n, ps) :: addPosition name position rest

/-- Add a fact at the end. -/
def push (s : FactStore) (f : Fact) : FactStore where
  facts := s.facts ++ [f]
  index := addPosition f.name s.facts.length s.index

/-- The store of a list of facts. -/
def ofList (facts : List Fact) : FactStore :=
  facts.foldl push empty

/-- The number of facts. -/
def size (s : FactStore) : Nat :=
  s.facts.length

/-- Whether there are no facts. -/
def isEmpty (s : FactStore) : Bool :=
  s.facts.isEmpty

/-- The fact at a position. -/
def placed? (s : FactStore) (position : Nat) : Option Placed :=
  s.facts[position]?.map (⟨position, ·⟩)

/-- The facts of the concepts with a name, in any namespace, in order. -/
def named (s : FactStore) (name : String) : List Placed :=
  ((s.index.lookup name).getD []).filterMap s.placed?

end FactStore

end Disclosure
