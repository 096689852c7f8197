import Disclosure.Number.Digits

/-!
# Decimal numbers

Decimal numbers with an integer mantissa of 96 bits and up to 28 places after the point. They are
compared as exact rational numbers; the number of places only matters for the text.
-/

namespace Disclosure

/-- A decimal number: plus or minus `mantissa / 10 ^ scale`. Zero has no sign. -/
structure Decimal where
  negative : Bool
  mantissa : Nat
  scale : Nat
  mantissa_lt : mantissa < twoTo 96
  scale_le : scale ≤ 28
  positive_of_zero : mantissa = 0 → negative = false
deriving DecidableEq

namespace Decimal

/-- The bound of the mantissa. -/
def mantissaBound : Nat := twoTo 96

/-- The greatest number of places. -/
def maxScale : Nat := 28

/-- The decimal with the given sign, mantissa and scale, if these are in range. -/
def ofParts? (negative : Bool) (mantissa scale : Nat) : Option Decimal :=
  if h : mantissa < mantissaBound ∧ scale ≤ maxScale then
    some {
      negative := negative && mantissa != 0
      mantissa
      scale
      mantissa_lt := h.1
      scale_le := h.2
      positive_of_zero := by simp +contextual }
  else none

/-- The mantissa with its sign. -/
def units (d : Decimal) : Int :=
  if d.negative then -d.mantissa else d.mantissa

/-- Whether a number is at most another, as rational numbers. -/
def le (a b : Decimal) : Bool :=
  decide (a.units * tenTo b.scale ≤ b.units * tenTo a.scale)

/-- The text of a number, with all its places. -/
def chars (d : Decimal) : List Char :=
  let ds := padded (d.scale + 1) d.mantissa
  let whole := ds.take (ds.length - d.scale)
  let places := ds.drop (ds.length - d.scale)
  (if d.negative then ['-'] else []) ++ whole ++ if d.scale = 0 then [] else '.' :: places

/-- The text of a number, with all its places. -/
def text (d : Decimal) : String :=
  String.ofList d.chars

/-- The exponent of the leading digit: the `k` such that the number is at
least `10 ^ k` in size and below `10 ^ (k + 1)`. -/
def leadingExponent (d : Decimal) : Int :=
  digitCount d.mantissa - 1 - d.scale

end Decimal

end Disclosure
