import Disclosure.Proofs.Calendar.DateText
import Disclosure.Rule.Value

/-!
# Ranges of dates

A text that shows a day is read as that day, with or without a time of day or a time zone, and a
range of dates accepts it if and only if the day lies between the bounds (`dateRange_exact`). The
bounds are read in the same way.
-/

namespace Disclosure

namespace ValueConstraint

variable {r : Range Date} {d low high : Date} {t lo hi : String}

lemma contains_le_iff : r.contains Date.le d ↔ r.low ≤ d ∧ d ≤ r.high := by
  rw [Range.contains, Bool.and_eq_true, Date.le_iff, Date.le_iff]

/-- Of any text at all, only a date between the bounds is accepted. -/
lemma accepts_dates_iff :
    (dates r).accepts t ↔ ∃ d, Date.ofText? t = some d ∧ r.low ≤ d ∧ d ≤ r.high := by
  simp only [accepts, Option.any_eq_true, contains_le_iff]

lemma read_dates (hlo : low.Writes lo) (hhi : high.Writes hi) :
    read datesField (.arr [.str lo, .str hi]) = .ok (.dates ⟨low, high⟩) := by
  have hlow : readDate (Json.scalarText (.str lo)) = .ok low := by
    rw [Json.scalarText, readDate, hlo.ofText?_eq]
  have hhigh : readDate (Json.scalarText (.str hi)) = .ok high := by
    rw [Json.scalarText, readDate, hhi.ofText?_eq]
  have hrange : readRange (readDate ·.scalarText) (.arr [.str lo, .str hi]) = .ok ⟨low, high⟩ := by
    rw [readRange, hlow, hhigh]
    rfl
  rw [read, if_neg (by decide), if_neg (by decide), if_pos rfl, hrange]
  rfl

/--
A text that shows a day, alone or in front of anything that begins like a time of day or a time
zone, is read as that day, and a range of dates accepts it exactly if the day lies in the range.
-/
theorem dateRange_exact (h : d.Writes t) :
    Date.ofText? t = some d ∧
      (∀ r : Range Date, (dates r).accepts t ↔ r.low ≤ d ∧ d ≤ r.high) ∧
      ∀ low high lo hi, low.Writes lo → high.Writes hi →
        ∃ c, read datesField (.arr [.str lo, .str hi]) = .ok c ∧
          (c.accepts t ↔ low ≤ d ∧ d ≤ high) := by
  have hrange : ∀ r : Range Date, (dates r).accepts t ↔ r.low ≤ d ∧ d ≤ r.high := by
    intro r
    rw [accepts_dates_iff, h.ofText?_eq]
    simp
  refine ⟨h.ofText?_eq, hrange, ?_⟩
  intro low high lo hi hlo hhi
  exact ⟨.dates ⟨low, high⟩, read_dates hlo hhi, hrange _⟩

/-- A leap second, and what is no time of day at all, in ranges with far bounds. -/
theorem dateRange_exact_leapSecond :
    (Date.ofText? "2016-12-31T23:59:60 é").map Date.text = some "2016-12-31" ∧
      ∃ c, read datesField (.arr [.str "-0001-02-28", .str "2016-12-31+14:00"]) = .ok c ∧
        c.accepts "2016-12-31T23:59:60 é" ∧
      ∃ c, read datesField (.arr [.str "2017-01-01", .str "+12024-02-29"]) = .ok c ∧
        ¬c.accepts "2016-12-31T23:59:60 é" := by
  let day : Date := ⟨2016, 12, 31, by decide, by decide⟩
  let early : Date := ⟨-1, 2, 28, by decide, by decide⟩
  let next : Date := ⟨2017, 1, 1, by decide, by decide⟩
  let late : Date := ⟨12024, 2, 29, by decide, by decide⟩
  have hyear : 0 ≤ day.year ∧ day.year ≤ 9999 := by decide
  have hmoment : day.text ++ "T23:59:60 é" = "2016-12-31T23:59:60 é" := by decide +kernel
  have hzone : day.text ++ "+14:00" = "2016-12-31+14:00" := by decide +kernel
  have hearly : early.text = "-0001-02-28" := by decide +kernel
  have hnext : next.text = "2017-01-01" := by decide +kernel
  have hlate : late.text = "+12024-02-29" := by decide +kernel
  rw [← hmoment, ← hzone, ← hearly, ← hnext, ← hlate]
  have hday : day.Writes (day.text ++ "T23:59:60 é") :=
    .moment hyear (c := 'T') (by decide) "23:59:60 é".toList
  obtain ⟨hread, -, hranges⟩ := dateRange_exact hday
  obtain ⟨c, hc, haccepts⟩ := hranges early day _ _ .day
    (.moment hyear (c := '+') (by decide) "14:00".toList)
  obtain ⟨c', hc', haccepts'⟩ := hranges next late _ _ .day .day
  refine ⟨?_, c, hc, haccepts.2 ?_, c', hc', ?_⟩
  · rw [hread]
    decide +kernel
  · decide
  · rw [haccepts']
    decide

end ValueConstraint

end Disclosure
