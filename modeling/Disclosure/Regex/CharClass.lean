import Disclosure.Unicode.CaseFold
import Disclosure.Unicode.Ranges

/-!
# Character classes

The sets of characters that a pattern can describe: ranges, combined by the operations on sets and
closed under changes of case.
-/

namespace Disclosure.Regex

/-- A set of characters. -/
inductive CharClass where
  | ranges (r : Unicode.Ranges)
  | union (a b : CharClass)
  | inter (a b : CharClass)
  | diff (a b : CharClass)
  | symmDiff (a b : CharClass)
  | compl (a : CharClass)
  /-- The characters that are equal up to case to one of `a`. -/
  | folded (a : CharClass)
  /-- The same for the letters of ASCII alone. -/
  | foldedAscii (a : CharClass)
deriving DecidableEq

namespace CharClass

/-- A letter of ASCII in the other case. -/
def swapCase (c : Char) : Char :=
  let n := c.toNat
  if 65 ≤ n ∧ n ≤ 90 then Char.ofNat (n + 32)
  else if 97 ≤ n ∧ n ≤ 122 then Char.ofNat (n - 32)
  else c

/-- Whether a character belongs to a class. -/
def contains : CharClass → Char → Bool
  | .ranges r, c => r.contains c
  | .union a b, c => a.contains c || b.contains c
  | .inter a b, c => a.contains c && b.contains c
  | .diff a b, c => a.contains c && !b.contains c
  | .symmDiff a b, c => a.contains c != b.contains c
  | .compl a, c => !a.contains c
  | .folded a, c => a.contains c || (Unicode.caseOrbit c).any a.contains
  | .foldedAscii a, c => a.contains c || a.contains (swapCase c)

/-- The class without members. -/
def none : CharClass := .ranges []

/-- The class of one character. -/
def single (c : Char) : CharClass := .ranges [(c.toNat, c.toNat)]

/-- The class, or its complement. -/
def negateIf (negated : Bool) (a : CharClass) : CharClass :=
  if negated then .compl a else a

/-- Whether no byte from 128 on belongs to the class. -/
def isAscii (a : CharClass) : Bool :=
  (List.range 128).all fun n => !a.contains (Char.ofNat (n + 128))

/-- How many ranges beyond ASCII a class is made of. -/
def weight : CharClass → Nat
  | .ranges r => (r.filter fun range => decide (127 < range.2)).length
  | .union a b | .inter a b | .diff a b | .symmDiff a b => a.weight + b.weight
  | .compl a | .folded a | .foldedAscii a => a.weight + 1

end CharClass

end Disclosure.Regex
