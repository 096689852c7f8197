import Disclosure.Number.Power

/-!
# Binary floating-point numbers

The finite numbers of the 64-bit binary format, as a sign, an integer mantissa below `2 ^ 53` and
a power of two from `-1074` to `971`. Every operation is exact and is then rounded once, to the
nearest such number, a tie going to the even mantissa.
-/

namespace Disclosure

/-- A finite 64-bit binary floating-point number: plus or minus `mantissa * 2 ^ exponent`. -/
structure Binary64 where
  negative : Bool
  mantissa : Nat
  exponent : Int
deriving DecidableEq, Inhabited

namespace Binary64

/-- The quotient rounded to the nearest integer, a tie going to the even one. -/
def nearest (num den : Nat) : Nat :=
  let q := num / den
  let r := num % den
  if 2 * r < den || (2 * r == den && q % 2 == 0) then q else q + 1

/-- The quotient of `num` and `den * 2 ^ e`, as numerator and denominator. -/
def scaled (num den : Nat) (e : Int) : Nat × Nat :=
  (num * twoTo (-e).toNat, den * twoTo e.toNat)

/-- The least exponent of the format. -/
def minExponent : Int := -1074

/-- The greatest exponent of the format. -/
def maxExponent : Int := 971

/-- The exponent at which the mantissa of `num / den` has 53 bits, or the least one. -/
def exponentFor (num den : Nat) : Int :=
  let e : Int := Nat.log2 num - Nat.log2 den - 52
  let s := scaled num den e
  max minExponent (if s.1 < s.2 * twoTo 52 then e - 1 else e)

/-- The number nearest to `num / den`, unless that is too large. -/
def ofRatio? (negative : Bool) (num den : Nat) : Option Binary64 :=
  if num = 0 then some ⟨negative, 0, minExponent⟩
  else
    let e := exponentFor num den
    let s := scaled num den e
    let m := nearest s.1 s.2
    -- rounding up may carry into a new bit
    let x : Binary64 := if m = twoTo 53 then ⟨negative, twoTo 52, e + 1⟩ else ⟨negative, m, e⟩
    if x.exponent ≤ maxExponent then some x else none

/-- The size of a number, as numerator and denominator. -/
def ratio (x : Binary64) : Nat × Nat :=
  (x.mantissa * twoTo x.exponent.toNat, twoTo (-x.exponent).toNat)

/-- The product of the sizes, rounded. -/
def mul? (x y : Binary64) : Option Binary64 :=
  ofRatio? false (x.ratio.1 * y.ratio.1) (x.ratio.2 * y.ratio.2)

/-- The quotient of the sizes, rounded. -/
def div? (x y : Binary64) : Option Binary64 :=
  ofRatio? false (x.ratio.1 * y.ratio.2) (x.ratio.2 * y.ratio.1)

/-- The number nearest to `10 ^ k`. -/
def powerOfTen? (k : Nat) : Option Binary64 :=
  ofRatio? false (tenTo k) 1

/-- The greatest power of ten below the largest number. -/
def maxPower : Nat := 308

/-- Divide by `10 ^ k`, at most `10 ^ 308` at a time. -/
def scaleDown (x : Binary64) (k : Nat) : Option Binary64 :=
  if k ≤ maxPower then do x.div? (← powerOfTen? k)
  else if x.mantissa = 0 then some x
  else do
    let y ← x.div? (← powerOfTen? maxPower)
    scaleDown y (k - maxPower)
termination_by k
decreasing_by simp only [maxPower] at *; omega

/--
The number `digits * 10 ^ exponent`, computed as a product or quotient of rounded factors. There is
none when it is too large.
-/
def ofParts? (negative : Bool) (digits : Nat) (exponent : Int) : Option Binary64 := do
  let x ← ofRatio? false digits 1
  let y ←
    if exponent < 0 then x.scaleDown (-exponent).toNat
    else if exponent.toNat ≤ maxPower then x.mul? (← powerOfTen? exponent.toNat)
    else if x.mantissa = 0 then some x
    else none
  return { y with negative }

end Binary64

end Disclosure
