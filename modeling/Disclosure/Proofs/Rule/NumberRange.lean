import Disclosure.Proofs.Number.Literal
import Disclosure.Rule.Value

/-!
# Ranges of numbers

A range between plain numbers can be read, and of the texts of plain numbers it accepts those that
lie between its bounds as rational numbers (`numberRange_exact`). Bounds and texts count by their
values alone, however they are spelled; a range that ends before it begins accepts nothing.
-/

namespace Disclosure

namespace ValueConstraint

variable {raw lo hi : Json} {r : Range Decimal} {t : String} {a b x : ℚ}

/--
How a bound may be given: as a text, or as an integer. Integers of more than 64 bits do not occur in
documents that were read, where they are floating-point numbers.
-/
inductive IsBound : Json → ℚ → Prop
  | text {t : String} {a : ℚ} (h : WritesNumber t a) : IsBound (.str t) a
  | int {n : ℤ} (h : n.natAbs < twoTo 96) : IsBound (.num (.int n)) n

lemma IsBound.writesNumber (h : IsBound raw a) : WritesNumber raw.scalarText a := by
  cases h with
  | text h => exact h
  | @int n h =>
    have htext : (Json.num (.int n)).scalarText = (PlainNumber.ofInt n h).text :=
      (PlainNumber.text_ofInt h).symm
    refine ⟨.ofInt n h, ?_, PlainNumber.value_ofInt h⟩
    rw [htext, PlainNumber.trim_text]

lemma IsBound.exists_readDecimal (h : IsBound raw a) :
    ∃ d, readDecimal raw = .ok d ∧ d.value = a := by
  obtain ⟨d, hd, hvalue⟩ := h.writesNumber.exists_ofText?
  refine ⟨d, ?_, hvalue⟩
  rw [readDecimal, hd]

/-- A range between plain numbers is read with their values as bounds. -/
lemma exists_read (hlo : IsBound lo a) (hhi : IsBound hi b) :
    ∃ r : Range Decimal, read numbersField (.arr [lo, hi]) = .ok (.numbers r) ∧
      r.low.value = a ∧ r.high.value = b := by
  obtain ⟨low, hlow, hlowValue⟩ := hlo.exists_readDecimal
  obtain ⟨high, hhigh, hhighValue⟩ := hhi.exists_readDecimal
  refine ⟨⟨low, high⟩, ?_, hlowValue, hhighValue⟩
  have hrange : readRange readDecimal (.arr [lo, hi]) = .ok ⟨low, high⟩ := by
    rw [readRange, hlow, hhigh]
    rfl
  rw [read, if_neg (by decide), if_pos rfl, hrange]
  rfl

/-! ### Acceptance -/

lemma contains_iff {d : Decimal} :
    r.contains Decimal.le d ↔ r.low.value ≤ d.value ∧ d.value ≤ r.high.value := by
  rw [Range.contains, Bool.and_eq_true, Decimal.le_iff, Decimal.le_iff]

/-- Of any text at all, only a number between the bounds is accepted. -/
lemma accepts_numbers_iff : (numbers r).accepts t ↔
    ∃ d, Decimal.ofText? t = some d ∧ r.low.value ≤ d.value ∧ d.value ≤ r.high.value := by
  simp only [accepts, Option.any_eq_true, contains_iff]

lemma accepts_iff_of_writesNumber (h : WritesNumber t x) :
    (numbers r).accepts t ↔ r.low.value ≤ x ∧ x ≤ r.high.value := by
  obtain ⟨d, hd, rfl⟩ := h.exists_ofText?
  rw [accepts_numbers_iff, hd]
  simp

/--
A range between plain numbers accepts exactly the plain numbers that lie between them. The spelling
of a text does not matter, nor that of the bounds, and a range with its bounds exchanged is empty.
-/
theorem numberRange_exact (hlo : IsBound lo a) (hhi : IsBound hi b) :
    ∃ c, read numbersField (.arr [lo, hi]) = .ok c ∧
      (∀ t x, WritesNumber t x → (c.accepts t ↔ a ≤ x ∧ x ≤ b)) ∧
      (∀ p q : PlainNumber, p.Respelled q →
        ∀ t u, Text.trim t = p.text → Text.trim u = q.text → c.accepts t = c.accepts u) ∧
      (∀ lo' hi', IsBound lo' a → IsBound hi' b →
        ∃ c', read numbersField (.arr [lo', hi']) = .ok c' ∧ ∀ t, c'.accepts t = c.accepts t) ∧
      (b < a → ∀ t, ¬c.accepts t) := by
  obtain ⟨r, hread, rfl, rfl⟩ := exists_read hlo hhi
  refine ⟨.numbers r, hread, ?_, ?_, ?_, ?_⟩
  · intro t x h
    exact accepts_iff_of_writesNumber h
  · intro p q hpq t u ht hu
    rw [Bool.eq_iff_iff, accepts_iff_of_writesNumber ⟨p, ht, rfl⟩,
      accepts_iff_of_writesNumber ⟨q, hu, rfl⟩, hpq.value_eq]
  · intro lo' hi' hlo' hhi'
    obtain ⟨r', hread', hlow, hhigh⟩ := exists_read hlo' hhi'
    refine ⟨.numbers r', hread', ?_⟩
    intro t
    rw [Bool.eq_iff_iff, accepts_numbers_iff, accepts_numbers_iff, hlow, hhigh]
  · intro hlt t haccepts
    obtain ⟨d, -, hlow, hhigh⟩ := accepts_numbers_iff.1 haccepts
    exact absurd hlt (not_lt.2 (hlow.trans hhigh))

/-- From the least number that a decimal holds to zero: the least number above zero is outside. -/
theorem numberRange_exact_least :
    ∃ c, read numbersField
        (.arr [.str " -79228162514264337593543950335", .num (.int 0)]) = .ok c ∧
      c.accepts "-00.000 " ∧ ¬c.accepts "0.0000000000000000000000000001" := by
  let least : PlainNumber :=
    ⟨.minus, "79228162514264337593543950335".toList, none, by decide,
      List.all_eq_true.1 (by decide), List.all_eq_true.1 (by decide), by decide, by decide⟩
  let zero : PlainNumber :=
    ⟨.minus, ['0', '0'], some ['0', '0', '0'], by decide,
      List.all_eq_true.1 (by decide), List.all_eq_true.1 (by decide), by decide, by decide⟩
  let above : PlainNumber :=
    ⟨.none, ['0'], some "0000000000000000000000000001".toList, by decide,
      List.all_eq_true.1 (by decide), List.all_eq_true.1 (by decide), by decide, by decide⟩
  have hlo : IsBound (.str " -79228162514264337593543950335") least.value :=
    .text ⟨least, by decide, rfl⟩
  have hhi : IsBound (.num (.int 0)) ((0 : ℤ) : ℚ) := .int (by decide)
  have hzero : zero.value = 0 := by
    have hdigits : readDigits 0 (zero.whole ++ zero.places) = 0 := by decide
    rw [PlainNumber.value, hdigits]
    simp
  have habove : ¬ above.value ≤ ((0 : ℤ) : ℚ) := by
    have hdigits : readDigits 0 (above.whole ++ above.places) = 1 := by decide
    rw [PlainNumber.value, hdigits]
    simp [above, Sign.factor]
  have hleast : least.value ≤ 0 := by
    rw [PlainNumber.value]
    exact div_nonpos_of_nonpos_of_nonneg (by simp [least, Sign.factor]) (by positivity)
  obtain ⟨c, hread, haccepts, -⟩ := numberRange_exact hlo hhi
  refine ⟨c, hread, ?_, ?_⟩
  · rw [haccepts _ _ ⟨zero, by decide, rfl⟩, hzero]
    exact ⟨hleast, by simp⟩
  · rw [haccepts _ _ ⟨above, by decide, rfl⟩]
    exact fun h => habove h.2

end ValueConstraint

end Disclosure
