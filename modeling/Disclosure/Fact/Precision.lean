import Disclosure.Number.DecimalText

/-!
# Precision

How precisely a fact is reported: to a number of decimal places, or exactly. The precision is told
by one of two attributes, of which the count of significant digits depends on the value.
-/

namespace Disclosure

/-- The precision of a fact. -/
inductive Precision where
  | places (n : Int)
  | exact
deriving DecidableEq

namespace Precision

/-- The attribute of an exact value. -/
def exactText : String := "INF"

/-- The text of a precision. -/
def text : Precision → String
  | .places n => String.ofList (integerText n)
  | .exact => exactText

/-- Whether a precision is less than another. An exact value is the most precise. -/
def lt : Precision → Precision → Bool
  | .places m, .places n => decide (m < n)
  | .places _, .exact => true
  | .exact, _ => false

/-- The lesser of two precisions. -/
def min (a b : Precision) : Precision :=
  if b.lt a then b else a

/-- The least precision in a list; exact if the list is empty. -/
def least (ps : List Precision) : Precision :=
  ps.foldl min .exact

/-! ### Attributes -/

/-- The least number of places. -/
def minPlaces : Int := -2147483648

/-- The greatest number of places. -/
def maxPlaces : Int := 2147483647

/-- A number of places that is too small or too great is replaced by the nearest one allowed. -/
def clamp (n : Int) : Int :=
  max minPlaces (Min.min n maxPlaces)

/-- Read an integer in the range of numbers of places, with an optional sign. -/
def readPlaces? (s : List Char) : Option Int :=
  let (negative, ds) := match s with
    | '-' :: s' => (true, s')
    | '+' :: s' => (false, s')
    | _ => (false, s)
  if ds.isEmpty || !ds.all isDigit then none
  else
    let n : Int := readDigits 0 ds
    let n := if negative then -n else n
    if minPlaces ≤ n ∧ n ≤ maxPlaces then some n else none

/-- The precision that a count of decimal places tells. -/
def ofPlaces? (attr : String) : Option Precision :=
  let s := Text.trim attr
  if s = exactText then some .exact else (readPlaces? s.toList).map .places

/--
The precision that a count of significant digits tells. Of a value with leading digit at `10 ^ k`,
`p` digits are those down to the place `p - k - 1`.
-/
def ofDigits (attr : String) (value : Option Decimal) : Precision :=
  match readPlaces? (Text.trimChars attr.toList), value with
  | some p, some v => if v.mantissa = 0 then .exact else .places (clamp (p - v.leadingExponent - 1))
  | _, _ => .exact

/-- The precision that the attributes of a fact tell. A readable count of places goes first. -/
def infer (decimals precision : Option String) (value : Option Decimal) : Precision :=
  match decimals.bind ofPlaces? with
  | some p => p
  | none =>
    match precision with
    | some digits => ofDigits digits value
    | none => .exact

/-- The precision that the attributes of a fact tell, where the value is given by its text. -/
def ofAttributeTexts (decimals precision : Option String) (value : String) : Precision :=
  infer decimals precision (Decimal.ofText? value)

end Precision

end Disclosure
