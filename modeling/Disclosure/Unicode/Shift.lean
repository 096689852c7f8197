/-!
# Shifted characters

A mapping of characters given by runs: within a run, every character, or every second one, moves by
the same distance. Characters outside the runs stay.
-/

namespace Disclosure.Unicode

/-- Runs of characters: first and last code point, step, and distance moved. -/
abbrev Shifts := List (Nat × Nat × Nat × Int)

namespace Shifts

/-- Whether the code point `n` belongs to the run. -/
def covers (run : Nat × Nat × Nat × Int) (n : Nat) : Bool :=
  decide (run.1 ≤ n) && decide (n ≤ run.2.1) && (n - run.1) % run.2.2.1 == 0

/-- The image of a character. -/
def apply (t : Shifts) (c : Char) : Char :=
  match t.find? (covers · c.toNat) with
  | some run => Char.ofNat (c.toNat + run.2.2.2).toNat
  | none => c

/-- The characters that move to `c`. -/
def preimage (t : Shifts) (c : Char) : List Char :=
  t.filterMap fun run =>
    let n := (c.toNat - run.2.2.2 : Int).toNat
    if covers run n then some (Char.ofNat n) else none

end Shifts

end Disclosure.Unicode
