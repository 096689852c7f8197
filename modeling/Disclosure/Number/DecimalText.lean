import Disclosure.Number.Decimal
import Disclosure.Text.Trim

/-!
# Reading decimal numbers

A decimal number is written plainly, with an optional sign and point, or with a power of ten.
Places that no longer fit are rounded, a half going away from zero.
-/

namespace Disclosure.Decimal

/-- The digit that decides about rounding. A separator counts as zero. -/
def roundingDigit? (c : Char) : Option Nat :=
  if isDigit c then some (digitValue c)
  else if c = '_' ∨ c = '.' then some 0
  else none

/--
End a number whose next place no longer fits. If rounding up fills the mantissa, one more place is
given up.
-/
def roundOff? (negative : Bool) (m scale : Nat) (next : Char) : Option Decimal := do
  let d ← roundingDigit? next
  if d < 5 then ofParts? negative m scale
  else if m + 1 < mantissaBound then ofParts? negative (m + 1) scale
  else if scale = 0 then none
  else ofParts? negative ((m + 5) / 10) (scale - 1)

/--
Read the digits of a plain number: `point` says whether the point has been read, `some` whether a
digit has, and `m` and `scale` are the mantissa and places so far. The low line may separate
digits.
-/
def readPlaces (negative point some : Bool) (m scale : Nat) : List Char → Option Decimal
  | [] => if some then ofParts? negative m scale else none
  | c :: s =>
    if isDigit c then
      let m' := 10 * m + digitValue c
      if m' < mantissaBound then
        let scale' := if point then scale + 1 else 0
        match s with
        | next :: _ =>
          if point && decide (maxScale ≤ scale') then roundOff? negative m' scale' next
          else readPlaces negative point true m' scale' s
        | [] => ofParts? negative m' scale'
      else if point then roundOff? negative m scale c
      else none
    else if c = '.' && !point then readPlaces negative true some m scale s
    else if c = '_' && some then readPlaces negative point some m scale s
    else none

/-- Read a number without a power of ten. -/
def readPlain? (s : List Char) : Option Decimal :=
  match s with
  | '-' :: s' => readPlaces true false false 0 0 s'
  | '+' :: s' => readPlaces false false false 0 0 s'
  | _ => readPlaces false false false 0 0 s

/-- Read a natural number below `2 ^ 32`, with an optional plus sign. -/
def readPower? (s : List Char) : Option Nat :=
  let ds := match s with
    | '+' :: s' => s'
    | _ => s
  if ds.isEmpty || !ds.all isDigit then none
  else
    let n := readDigits 0 ds
    if n < twoTo 32 then some n else none

/-- Multiply by `10 ^ e`. Places are used up first; then the mantissa grows. -/
def scaleUp? (d : Decimal) (e : Nat) : Option Decimal :=
  if e ≤ d.scale then ofParts? d.negative d.mantissa (d.scale - e)
  else if e ≤ maxScale then ofParts? d.negative (d.mantissa * tenTo (e - d.scale)) 0
  else none

/-- Divide by `10 ^ e`, adding places. -/
def scaleDown? (d : Decimal) (e : Nat) : Option Decimal :=
  ofParts? d.negative d.mantissa (d.scale + e)

/-- Whether a character separates the digits of a number from its power of ten. -/
def isExponentMark (c : Char) : Bool :=
  c == 'e' || c == 'E'

/-- Read a number with a power of ten. -/
def readScientific? (s : List Char) : Option Decimal :=
  match s.dropWhile (!isExponentMark ·) with
  | [] => none
  | _ :: power => do
    let d ← readPlain? (s.takeWhile (!isExponentMark ·))
    match power with
    | '-' :: power' => d.scaleDown? (← readPower? power')
    | _ => d.scaleUp? (← readPower? power)

/-- Read a decimal number; white space around it is ignored. -/
def ofText? (s : String) : Option Decimal :=
  let cs := Text.trimChars s.toList
  readPlain? cs <|> readScientific? cs

end Disclosure.Decimal
