import Disclosure.Calendar.DateText
import Disclosure.Json.Text
import Disclosure.Number.DecimalText
import Disclosure.Regex.Pattern
import Disclosure.Token.Sequence

/-!
# Value constraints

What a rule demands of the text of a value: that it matches a pattern, lies in a range of numbers
or dates, or is one of a list of options.
-/

namespace Disclosure

/-- A closed range. -/
structure Range (α : Type) where
  low : α
  high : α

namespace Range

/-- Whether a value lies in a range, by the order `le`. -/
def contains {α : Type} (le : α → α → Bool) (r : Range α) (a : α) : Bool :=
  le r.low a && le a r.high

/-- The text of a range. -/
def text {α : Type} (show' : α → String) (r : Range α) : String :=
  "from " ++ show' r.low ++ " to " ++ show' r.high

end Range

/-- A constraint on the text of a value. -/
inductive ValueConstraint where
  | pattern (re : Regex)
  | numbers (r : Range Decimal)
  | dates (r : Range Date)
  | oneOf (options : Tokens)
  | literal (v : Json)

/-- A constraint that cannot be read. -/
inductive ValueError where
  | pattern (pattern : String)
  | rangeShape (raw : Json)
  | decimal (text : String)
  | date (text : String)

/-- The wording of an error. -/
def ValueError.message : ValueError → String
  | .pattern p => "invalid regular expression '" ++ p ++ "'"
  | .rangeShape raw => "range must be a list of two bounds, got " ++ raw.text
  | .decimal t => "'" ++ t ++ "' is not a decimal number"
  | .date t => "'" ++ t ++ "' is not a calendar date"

namespace ValueConstraint

/-- The field of a plain value. -/
def valueField : String := "value"

/-- The field of a pattern. -/
def patternField : String := "value-pattern"

/-- The field of a range of numbers. -/
def numbersField : String := "value-numeric-range"

/-- The field of a range of dates. -/
def datesField : String := "value-date-range"

/-- The fields that may hold a constraint. If there are several, the first one counts. -/
def fields : List String := [patternField, numbersField, datesField, valueField]

/-- The field of an entry that holds its constraint, and what the field holds. -/
def select (entry : Json.Members) : Option (String × Json) :=
  fields.findSome? fun field => (entry.get? field).map (field, ·)

/-- Read a pattern. -/
def readPattern (pattern : String) : Except ValueError Regex :=
  match Regex.ofPattern? pattern with
  | some re => .ok re
  | none => .error (.pattern pattern)

/-- Read a date. -/
def readDate (text : String) : Except ValueError Date :=
  match Date.ofText? text with
  | some d => .ok d
  | none => .error (.date (Text.trim text))

/-- Read a number from its text, or from a JSON number. -/
def readDecimal (raw : Json) : Except ValueError Decimal :=
  match Decimal.ofText? raw.scalarText with
  | some d => .ok d
  | none => .error (.decimal raw.scalarText)

/-- Read the two bounds of a range. -/
def readRange {α : Type} (readBound : Json → Except ValueError α) (raw : Json) :
    Except ValueError (Range α) :=
  match raw with
  | .arr [low, high] => do return ⟨← readBound low, ← readBound high⟩
  | _ => .error (.rangeShape raw)

/-- Read the constraint in a field. -/
def read (field : String) (raw : Json) : Except ValueError ValueConstraint :=
  if field = patternField then (readPattern raw.scalarText).map .pattern
  else if field = numbersField then (readRange readDecimal raw).map .numbers
  else if field = datesField then (readRange (readDate ·.scalarText) raw).map .dates
  else .ok (.literal raw)

/-- Whether a text meets a constraint. A text that is no number or date is in no range. -/
def accepts : ValueConstraint → String → Bool
  | .pattern re, t => re.isMatch t
  | .numbers r, t => (Decimal.ofText? t).any (r.contains Decimal.le)
  | .dates r, t => (Date.ofText? t).any (r.contains Date.le)
  | .oneOf options, t => options.contains t
  | .literal (.arr items), t => items.any (·.scalarText == t)
  | .literal v, t => v.scalarText == t

end ValueConstraint

end Disclosure
