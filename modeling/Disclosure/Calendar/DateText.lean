import Disclosure.Calendar.Date
import Disclosure.Text.Trim

/-!
# Reading dates

A date is written year first with hyphens; a time of day, which is dropped, may follow. Numbers may
have fewer digits than usual and white space in front; a year of more than four digits needs a
sign.
-/

namespace Disclosure

namespace Date

/-- Read a number of one to `width` digits, and give the rest of the text. -/
def readNumber? (width : Nat) (s : List Char) : Option (Nat × List Char) :=
  let ds := (s.take width).takeWhile isDigit
  if ds.isEmpty then none else some (readDigits 0 ds, s.drop ds.length)

/-- Read a number after white space. -/
def readField? (width : Nat) (s : List Char) : Option (Nat × List Char) :=
  readNumber? width (Text.trimLeft s)

/-- Read a year. Behind a sign it may have any number of digits. -/
def readYear? (s : List Char) : Option (Int × List Char) :=
  match Text.trimLeft s with
  | '-' :: s' => do
    let (n, rest) ← readNumber? s'.length s'
    return (-n, rest)
  | '+' :: s' => do
    let (n, rest) ← readNumber? s'.length s'
    return (n, rest)
  | s' => do
    let (n, rest) ← readNumber? 4 s'
    return (n, rest)

/-- Take one character off a text. -/
def expect? (c : Char) : List Char → Option (List Char)
  | [] => none
  | c' :: s => if c' = c then some s else none

/-- Read a day, and give the rest of the text. -/
def readDay? (s : List Char) : Option (Date × List Char) := do
  let (year, s) ← readYear? s
  let s ← expect? '-' s
  let (month, s) ← readField? 2 s
  let s ← expect? '-' s
  let (day, s) ← readField? 2 s
  let date ← ofParts? year month day
  return (date, s)

/-- Whether a text is a time of day in hours, minutes and seconds. There may be a leap second. -/
def isTimeOfDay (s : List Char) : Bool :=
  let time? : Option Bool := do
    let (hour, s) ← readField? 2 s
    let s ← expect? ':' s
    let (minute, s) ← readField? 2 s
    let s ← expect? ':' s
    let (second, s) ← readField? 2 s
    return s.isEmpty && decide (hour ≤ 23) && decide (minute ≤ 59) && decide (second ≤ 60)
  time?.getD false

/-- The first `n` bytes of a text and what follows, if a character ends there. -/
def splitBytes? : Nat → List Char → Option (List Char × List Char)
  | 0, s => some ([], s)
  | _ + 1, [] => none
  | n + 1, c :: s =>
    if c.utf8Size ≤ n + 1 then do
      let (before, after) ← splitBytes? (n + 1 - c.utf8Size) s
      return (c :: before, after)
    else none
termination_by _ s => s.length

/-- Whether a character may follow a day that takes ten bytes. -/
def isTimeMark (c : Char) : Bool :=
  c == 'T' || c == 'Z' || c == '+' || c == '-'

/-- Read a text that is a day and nothing else. -/
def readWhole? (s : List Char) : Option Date :=
  match readDay? s with
  | some (date, []) => some date
  | _ => none

/-- Read a day followed by a time of day. -/
def readStamp? (s : List Char) : Option Date :=
  match readDay? s with
  | some (date, 'T' :: time) => if isTimeOfDay time then some date else none
  | _ => none

/-- Read a day of ten bytes followed by a time of day or a time zone of any form. -/
def readMarked? (s : List Char) : Option Date :=
  match splitBytes? 10 s with
  | some (day, c :: _) => if isTimeMark c then readWhole? day else none
  | _ => none

/-- Read a date without its time of day; the text has no white space around it. -/
def ofChars? (s : List Char) : Option Date :=
  readWhole? s <|> readStamp? s <|> readMarked? s

/-- Read a date, and drop its time of day. White space around it is ignored. -/
def ofText? (s : String) : Option Date :=
  ofChars? (Text.trimChars s.toList)

end Date

end Disclosure
