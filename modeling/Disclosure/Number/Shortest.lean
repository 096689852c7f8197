import Disclosure.Number.Binary64
import Disclosure.Number.Digits

/-!
# Shortest decimal text of a floating-point number

Of all decimals that read back as a given number, the one with the fewest digits is written, and
of those the nearest. The digits are found by exact arithmetic: for one digit, two digits and so
on, the two neighbours of the number on that decimal grid are tried.
-/

namespace Disclosure

/-- A number as a fraction, with its distances to the ends of the interval that rounds to it. -/
structure Binary64.Interval where
  num : Nat
  den : Nat
  below : Nat
  above : Nat
  /-- Whether the ends themselves round to the number. -/
  closed : Bool

namespace Binary64

/-- The decimals that round to `x`. Its lower neighbour is nearer when the mantissa is least. -/
def interval (x : Binary64) : Interval :=
  let unit := twoTo x.exponent.toNat
  { num := 4 * x.mantissa * unit
    den := 4 * twoTo (-x.exponent).toNat
    below := if x.mantissa = twoTo 52 ∧ minExponent < x.exponent then unit else 2 * unit
    above := 2 * unit
    closed := x.mantissa % 2 == 0 }

/-- The exponent of the first significant decimal digit of `num / den`. -/
def leadingExponent (num den : Nat) : Int :=
  if den ≤ num then (digitCount (num / den) : Int) - 1
  else -(digitCount ((den - 1) / num) : Int)

/-- The multiple of `10 ^ g` in the interval that is nearest to the number, divided by `10 ^ g`. -/
def Interval.gridPoint? (i : Interval) (g : Int) : Option Nat :=
  let up := tenTo (-g).toNat
  let num := i.num * up
  let den := i.den * tenTo g.toNat
  let q := num / den
  let inside (gap distance : Nat) : Bool :=
    if i.closed then decide (distance ≤ gap) else decide (distance < gap)
  let low := inside (i.below * up) (num - q * den)
  let high := inside (i.above * up) ((q + 1) * den - num)
  match low, high with
  | true, true => some (nearest num den)
  | true, false => some q
  | false, true => some (q + 1)
  | false, false => none

/-- Drop trailing zeros of `d`, counting them into the exponent. -/
def stripZeros (d : Nat) (g : Int) : Nat × Int :=
  if d = 0 then (0, g)
  else if d % 10 = 0 then stripZeros (d / 10) (g + 1) else (d, g)
termination_by d
decreasing_by omega

/-- The fewest digits that read back as `x`, and the exponent of the last one. -/
def shortest (x : Binary64) : Nat × Int :=
  let i := x.interval
  let k := leadingExponent i.num i.den
  let found := (List.range 17).findSome? fun (n : Nat) =>
    let g := k - n
    (i.gridPoint? g).map (stripZeros · g)
  found.getD (0, 0)

/--
The text of a number: plain notation with a fraction when the first digit stands at an exponent
from -5 to 15, and otherwise one digit before the point and a signed exponent.
-/
def text (x : Binary64) : List Char :=
  let sign := if x.negative then ['-'] else []
  if x.mantissa = 0 then sign ++ ['0', '.', '0']
  else
    let (d, g) := x.shortest
    let ds := decimalDigits d
    let e : Int := ds.length - 1 + g
    sign ++
      if -5 ≤ e ∧ e ≤ 15 then
        if 0 ≤ g then ds ++ List.replicate g.toNat '0' ++ ['.', '0']
        else if 0 ≤ e then ds.take (e.toNat + 1) ++ '.' :: ds.drop (e.toNat + 1)
        else '0' :: '.' :: (List.replicate (-e - 1).toNat '0' ++ ds)
      else
        let fraction := if ds.length = 1 then [] else '.' :: ds.drop 1
        ds.take 1 ++ fraction ++ 'e' :: (if e < 0 then '-' else '+') :: decimalDigits e.natAbs

end Binary64

end Disclosure
