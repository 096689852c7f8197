import Mathlib
import Disclosure.Number.Decimal

/-!
# Decimal numbers as rational numbers

Decimals are compared by the rational numbers that they stand for (`Decimal.le_iff`), and the
exponent of the leading digit is the logarithm of the size of this number, rounded down
(`Decimal.leadingExponent_eq_iff`): the mantissa has one digit more than its logarithm, and every
place takes one away.
-/

namespace Disclosure

lemma tenTo_eq (k : Nat) : tenTo k = 10 ^ k := rfl

lemma digitCount_eq (n : Nat) : digitCount n = Nat.log 10 n + 1 := by
  fun_induction digitCount n with
  | case1 n h => rw [Nat.log_of_lt h]
  | case2 n h ih => rw [ih, Nat.log_of_one_lt_of_le (by decide) (by omega : 10 ≤ n)]

namespace Decimal

variable {a b d : Decimal}

/-- The rational number that a decimal stands for. -/
def value (d : Decimal) : ℚ := d.units / 10 ^ d.scale

lemma le_iff : a.le b ↔ a.value ≤ b.value := by
  have hscale : ∀ k : Nat, (0 : ℚ) < 10 ^ k := fun k => by positivity
  rw [le, decide_eq_true_eq, value, value, div_le_div_iff₀ (hscale _) (hscale _), tenTo_eq,
    tenTo_eq]
  norm_cast

lemma abs_units : |(d.units : ℚ)| = d.mantissa := by
  rw [units]
  split_ifs <;> simp

lemma abs_value : |d.value| = d.mantissa / 10 ^ d.scale := by
  rw [value, abs_div, abs_units, abs_of_pos (by positivity)]

lemma mantissa_ne_zero_iff : d.mantissa ≠ 0 ↔ d.value ≠ 0 := by
  rw [← abs_ne_zero, abs_value]
  simp

/-! ### The leading digit -/

lemma leadingExponent_eq : d.leadingExponent = (Nat.log 10 d.mantissa : ℤ) - d.scale := by
  rw [leadingExponent, digitCount_eq]
  push_cast
  ring

lemma zpow_leadingExponent_le (h : d.value ≠ 0) : (10 : ℚ) ^ d.leadingExponent ≤ |d.value| := by
  have hlog : 10 ^ Nat.log 10 d.mantissa ≤ d.mantissa :=
    Nat.pow_log_le_self 10 (mantissa_ne_zero_iff.2 h)
  rw [leadingExponent_eq, zpow_sub₀ (by norm_num), zpow_natCast, zpow_natCast, abs_value]
  gcongr
  exact_mod_cast hlog

lemma lt_zpow_leadingExponent (d : Decimal) : |d.value| < (10 : ℚ) ^ (d.leadingExponent + 1) := by
  have hlog : d.mantissa < 10 ^ (Nat.log 10 d.mantissa + 1) :=
    Nat.lt_pow_succ_log_self (by decide) d.mantissa
  have hexponent : d.leadingExponent + 1 = ((Nat.log 10 d.mantissa + 1 : ℕ) : ℤ) - d.scale := by
    rw [leadingExponent_eq]
    push_cast
    ring
  rw [hexponent, zpow_sub₀ (by norm_num), zpow_natCast, zpow_natCast, abs_value]
  gcongr
  exact_mod_cast hlog

/-- The exponent of the leading digit is the only one between whose powers the number lies. -/
lemma leadingExponent_eq_iff (h : d.value ≠ 0) {k : ℤ} :
    d.leadingExponent = k ↔ (10 : ℚ) ^ k ≤ |d.value| ∧ |d.value| < 10 ^ (k + 1) := by
  constructor
  · rintro rfl
    exact ⟨zpow_leadingExponent_le h, d.lt_zpow_leadingExponent⟩
  · rintro ⟨hlow, hhigh⟩
    have hbase : (1 : ℚ) < 10 := by norm_num
    have hle : k < d.leadingExponent + 1 :=
      (zpow_lt_zpow_iff_right₀ hbase).1 (hlow.trans_lt d.lt_zpow_leadingExponent)
    have hge : d.leadingExponent < k + 1 :=
      (zpow_lt_zpow_iff_right₀ hbase).1 ((zpow_leadingExponent_le h).trans_lt hhigh)
    omega

/-- A power of ten moves the leading digit. -/
lemma leadingExponent_eq_add {j : ℤ} (h : a.value ≠ 0) (hb : b.value = a.value * 10 ^ j) :
    b.leadingExponent = a.leadingExponent + j := by
  have hpow : (0 : ℚ) < 10 ^ j := by positivity
  have habs : |b.value| = |a.value| * 10 ^ j := by rw [hb, abs_mul, abs_of_pos hpow]
  have hne : b.value ≠ 0 := by
    rw [hb]
    exact mul_ne_zero h hpow.ne'
  have hbase : (10 : ℚ) ≠ 0 := by norm_num
  rw [leadingExponent_eq_iff hne, habs, add_right_comm, zpow_add₀ hbase, zpow_add₀ hbase _ j]
  constructor
  · gcongr
    exact zpow_leadingExponent_le h
  · gcongr
    exact a.lt_zpow_leadingExponent

/-- Neither the sign of a number nor zeros behind its places move the leading digit. -/
lemma leadingExponent_congr (h : a.value ≠ 0) (habs : |b.value| = |a.value|) :
    b.leadingExponent = a.leadingExponent := by
  have hne : b.value ≠ 0 := by rwa [← abs_ne_zero, habs, abs_ne_zero]
  rw [leadingExponent_eq_iff hne, habs]
  exact (leadingExponent_eq_iff h).1 rfl

lemma leadingExponent_bounds (d : Decimal) : -28 ≤ d.leadingExponent ∧ d.leadingExponent ≤ 28 := by
  have hscale := d.scale_le
  have hlog : Nat.log 10 d.mantissa < 29 :=
    Nat.log_lt_of_lt_pow' (by decide) (d.mantissa_lt.trans (by decide))
  rw [leadingExponent_eq]
  omega

end Decimal

end Disclosure
