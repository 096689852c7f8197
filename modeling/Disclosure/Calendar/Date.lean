import Disclosure.Number.Digits

/-!
# Calendar dates

Days of the Gregorian calendar, extended to all years from -262143 to 262142.
-/

namespace Disclosure

/-- Whether a year has a 29th of February. -/
def isLeapYear (year : Int) : Bool :=
  year % 4 == 0 && (year % 100 != 0 || year % 400 == 0)

/-- The number of days of a month; there is no month 0 or 13. -/
def daysInMonth (year : Int) (month : Nat) : Nat :=
  match month with
  | 2 => if isLeapYear year then 29 else 28
  | 4 | 6 | 9 | 11 => 30
  | 1 | 3 | 5 | 7 | 8 | 10 | 12 => 31
  | _ => 0

/-- A day of the calendar. -/
structure Date where
  year : Int
  month : Nat
  day : Nat
  year_mem : -262143 ≤ year ∧ year ≤ 262142
  day_mem : 1 ≤ day ∧ day ≤ daysInMonth year month
deriving DecidableEq

namespace Date

/-- The day with the given year, month and day of the month, if there is one. -/
def ofParts? (year : Int) (month day : Nat) : Option Date :=
  if h : -262143 ≤ year ∧ year ≤ 262142 then
    if h' : 1 ≤ day ∧ day ≤ daysInMonth year month then some ⟨year, month, day, h, h'⟩ else none
  else none

/-- Whether a day is another or comes before it. -/
def le (a b : Date) : Bool :=
  decide (a.year < b.year) ||
    (decide (a.year = b.year) &&
      (decide (a.month < b.month) || (decide (a.month = b.month) && decide (a.day ≤ b.day))))

/-- The year in four digits, with a sign if it has more or is negative. -/
def yearChars (year : Int) : List Char :=
  if 0 ≤ year ∧ year ≤ 9999 then padded 4 year.toNat
  else (if year < 0 then '-' else '+') :: padded 4 year.natAbs

/-- The characters that show a day, year first. -/
def chars (d : Date) : List Char :=
  yearChars d.year ++ '-' :: (padded 2 d.month ++ '-' :: padded 2 d.day)

/-- The text of a day, year first. -/
def text (d : Date) : String :=
  String.ofList d.chars

end Date

end Disclosure
