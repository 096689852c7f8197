/-!
# Sets of code points

A set of characters is a list of closed ranges of code points. Large sets are written as text, in
hexadecimal: `41-5A 5F 61-7A` holds the letters of the alphabet and the low line.
-/

namespace Disclosure.Unicode

/-- A set of characters, as closed ranges of code points. -/
abbrev Ranges := List (Nat × Nat)

namespace Ranges

/-- Whether a character lies in one of the ranges. -/
def contains (r : Ranges) (c : Char) : Bool :=
  r.any fun range => decide (range.1 ≤ c.toNat) && decide (c.toNat ≤ range.2)

/-- The value of a hexadecimal digit with capital letters. -/
def hexDigit (c : Char) : Nat :=
  if c.toNat < 58 then c.toNat - 48 else c.toNat - 55

/-- The number written by hexadecimal digits. -/
def hexNumber (s : List Char) : Nat :=
  s.foldl (fun n c => 16 * n + hexDigit c) 0

/-- The range written `lo-hi`, or `lo` for a single character. -/
def ofWord (w : String) : Nat × Nat :=
  let cs := w.toList
  let lo := hexNumber (cs.takeWhile (· != '-'))
  match cs.dropWhile (· != '-') with
  | _ :: hi => (lo, hexNumber hi)
  | [] => (lo, lo)

/-- The ranges written in a text, separated by spaces. -/
def ofText (t : String) : Ranges :=
  (t.splitOn " ").map ofWord

/-- The ranges written in several lines. -/
def ofLines (lines : List String) : Ranges :=
  lines.flatMap ofText

@[simp] theorem contains_nil (c : Char) : contains [] c = false := rfl

theorem contains_cons (lo hi : Nat) (r : Ranges) (c : Char) :
    contains ((lo, hi) :: r) c =
      ((decide (lo ≤ c.toNat) && decide (c.toNat ≤ hi)) || contains r c) := rfl

end Ranges

end Disclosure.Unicode
