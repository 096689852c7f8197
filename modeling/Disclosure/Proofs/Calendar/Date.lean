import Mathlib.Data.Prod.Lex
import Mathlib.Data.Int.Order.Basic
import Disclosure.Calendar.Date
import Disclosure.Proofs.Number.Literal

/-!
# Days and how they are shown

The days of the calendar are linearly ordered by year, month and day of the month, and `Date.le`
decides their order (`Date.le_iff`). A day is shown with its numbers padded to a fixed width; with a
year of four digits it takes ten characters (`Date.length_chars`).
-/

namespace Disclosure

/-! ### Padded numbers -/

section Padded

variable {n w : Nat} {c : Char}

lemma length_decimalDigits_le (h : n < 10 ^ (w + 1)) : (decimalDigits n).length ≤ w + 1 := by
  fun_induction decimalDigits n generalizing w with
  | case1 n h' => simp
  | case2 n h' ih =>
    cases w with
    | zero => exact absurd h h'
    | succ w =>
      have hlt : n / 10 < 10 ^ (w + 1) := Nat.div_lt_of_lt_mul (by rwa [pow_succ, mul_comm] at h)
      rw [List.length_append, List.length_singleton]
      exact Nat.add_le_add_right (ih hlt) 1

/-- A number that is not too wide is padded to the width. -/
lemma length_padded (h : n < 10 ^ (w + 1)) : (padded (w + 1) n).length = w + 1 := by
  have hle := length_decimalDigits_le h
  simp only [padded, List.length_append, List.length_replicate]
  omega

lemma isDigit_of_mem_padded (hc : c ∈ padded w n) : isDigit c := by
  rcases List.mem_append.1 hc with hzero | hdigit
  · rw [List.eq_of_mem_replicate hzero]
    decide
  · exact isDigit_of_mem_decimalDigits hdigit

lemma padded_ne_nil : padded w n ≠ [] := by
  simp [padded, decimalDigits_ne_nil]

/-- Padding does not change the number that is written. -/
lemma readDigits_padded (w n : Nat) : readDigits 0 (padded w n) = n := by
  simp only [padded]
  rw [readDigits_append, PlainNumber.readDigits_replicate, zero_mul, readDigits_decimalDigits]

end Padded

namespace Date

variable {a b d : Date} {c : Char}

/-! ### Order -/

/-- What days are ordered by. -/
def key (d : Date) : ℤ ×ₗ ℕ ×ₗ ℕ :=
  toLex (d.year, toLex (d.month, d.day))

lemma key_injective : Function.Injective key := by
  intro a b h
  cases a
  cases b
  simpa [key] using h

/-- The order of the calendar. -/
instance : LinearOrder Date :=
  LinearOrder.lift' key key_injective

lemma le_iff : a.le b ↔ a ≤ b := by
  have hkey : a ≤ b ↔ key a ≤ key b := Iff.rfl
  rw [hkey, key, key, Prod.Lex.toLex_le_toLex, Prod.Lex.toLex_le_toLex]
  simp [le]

/-! ### Parts -/

lemma month_mem (d : Date) : 1 ≤ d.month ∧ d.month ≤ 12 := by
  have hday : 1 ≤ daysInMonth d.year d.month := d.day_mem.1.trans d.day_mem.2
  unfold daysInMonth at hday
  split at hday <;> omega

lemma day_le (d : Date) : d.day ≤ 31 := by
  have hdays : daysInMonth d.year d.month ≤ 31 := by
    unfold daysInMonth
    split
    · split <;> decide
    all_goals decide
  exact d.day_mem.2.trans hdays

lemma ofParts?_parts (d : Date) : ofParts? d.year d.month d.day = some d := by
  rw [ofParts?, dif_pos d.year_mem, dif_pos d.day_mem]

/-! ### Display -/

lemma length_yearChars {year : ℤ} (h : 0 ≤ year ∧ year ≤ 9999) : (yearChars year).length = 4 := by
  rw [yearChars, if_pos h]
  exact length_padded (by omega)

/-- A day with a year of four digits takes ten characters. -/
lemma length_chars (h : 0 ≤ d.year ∧ d.year ≤ 9999) : d.chars.length = 10 := by
  have hmonth : (padded 2 d.month).length = 2 := length_padded (by have := d.month_mem; omega)
  have hday : (padded 2 d.day).length = 2 := length_padded (by have := d.day_le; omega)
  simp only [chars, List.length_append, List.length_cons, length_yearChars h, hmonth, hday]

/-- A day is shown in digits, hyphens and perhaps a plus sign. -/
lemma mem_chars (hc : c ∈ d.chars) : isDigit c ∨ c = '-' ∨ c = '+' := by
  have hyear : ∀ c ∈ yearChars d.year, isDigit c ∨ c = '-' ∨ c = '+' := by
    intro c hc
    rw [yearChars] at hc
    split_ifs at hc
    · exact .inl (isDigit_of_mem_padded hc)
    · rcases List.mem_cons.1 hc with rfl | hc
      · exact .inr (.inl rfl)
      · exact .inl (isDigit_of_mem_padded hc)
    · rcases List.mem_cons.1 hc with rfl | hc
      · exact .inr (.inr rfl)
      · exact .inl (isDigit_of_mem_padded hc)
  simp only [chars, List.mem_append, List.mem_cons] at hc
  rcases hc with hc | rfl | hc | rfl | hc
  · exact hyear c hc
  · exact .inr (.inl rfl)
  · exact .inl (isDigit_of_mem_padded hc)
  · exact .inr (.inl rfl)
  · exact .inl (isDigit_of_mem_padded hc)

lemma isBlank_of_mem_chars (hc : c ∈ d.chars) : Unicode.isBlank c = false := by
  rcases mem_chars hc with hdigit | rfl | rfl
  · exact isBlank_of_isDigit hdigit
  · decide
  · decide

end Date

end Disclosure
