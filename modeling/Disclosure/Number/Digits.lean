import Disclosure.Number.Power

/-!
# Decimal digits of a natural number

The number of digits, the digits themselves, and the number that digits write.
-/

namespace Disclosure

/-- How many decimal digits `n` has; zero has one. -/
def digitCount (n : Nat) : Nat :=
  if n < 10 then 1 else digitCount (n / 10) + 1
termination_by n
decreasing_by omega

theorem digitCount_pos (n : Nat) : 0 < digitCount n := by
  rw [digitCount]
  split <;> omega

/-- The character of a digit below ten. -/
def digitChar (d : Nat) : Char :=
  Char.ofNat (48 + d)

/-- The value of a digit character. -/
def digitValue (c : Char) : Nat :=
  c.toNat - 48

/-- Whether a character is one of the ten digits of ASCII. -/
def isDigit (c : Char) : Bool :=
  decide (48 ≤ c.toNat) && decide (c.toNat ≤ 57)

theorem toNat_digitChar {d : Nat} (h : d < 10) : (digitChar d).toNat = 48 + d := by
  have : ∀ d < 10, (digitChar d).toNat = 48 + d := by decide
  exact this d h

theorem digitValue_digitChar {d : Nat} (h : d < 10) : digitValue (digitChar d) = d := by
  rw [digitValue, toNat_digitChar h, Nat.add_sub_cancel_left]

theorem isDigit_digitChar {d : Nat} (h : d < 10) : isDigit (digitChar d) = true := by
  simp only [isDigit, toNat_digitChar h, Bool.and_eq_true, decide_eq_true_eq]
  omega

/-- The decimal digits of `n`, most significant first. -/
def decimalDigits (n : Nat) : List Char :=
  if n < 10 then [digitChar n] else decimalDigits (n / 10) ++ [digitChar (n % 10)]
termination_by n
decreasing_by omega

/-- The number written by decimal digits, continued from `start`. -/
def readDigits (start : Nat) (s : List Char) : Nat :=
  s.foldl (fun n c => 10 * n + digitValue c) start

@[simp] theorem readDigits_nil (n : Nat) : readDigits n [] = n := rfl

@[simp] theorem readDigits_cons (n : Nat) (c : Char) (s : List Char) :
    readDigits n (c :: s) = readDigits (10 * n + digitValue c) s :=
  List.foldl_cons ..

theorem readDigits_append (n : Nat) (s t : List Char) :
    readDigits n (s ++ t) = readDigits (readDigits n s) t := by
  simp [readDigits]

theorem le_readDigits (n : Nat) (ds : List Char) : n ≤ readDigits n ds := by
  induction ds generalizing n with
  | nil => exact Nat.le_refl n
  | cons d ds ih =>
    have := ih (10 * n + digitValue d)
    rw [readDigits_cons]
    omega

theorem decimalDigits_ne_nil (n : Nat) : decimalDigits n ≠ [] := by
  rw [decimalDigits]
  split <;> simp

theorem isDigit_of_mem_decimalDigits {n : Nat} {c : Char} (hc : c ∈ decimalDigits n) :
    isDigit c = true := by
  fun_induction decimalDigits n with
  | case1 n h =>
    rw [List.mem_singleton.1 hc]
    exact isDigit_digitChar h
  | case2 n h ih =>
    rcases List.mem_append.1 hc with hc | hc
    · exact ih hc
    · rw [List.mem_singleton.1 hc]
      exact isDigit_digitChar (Nat.mod_lt n (by decide))

/-- The digits of a number write that number. -/
theorem readDigits_decimalDigits (n : Nat) : readDigits 0 (decimalDigits n) = n := by
  fun_induction decimalDigits n with
  | case1 n h => simp [digitValue_digitChar h]
  | case2 n h ih =>
    rw [readDigits_append, ih, readDigits_cons, readDigits_nil,
      digitValue_digitChar (Nat.mod_lt n (by decide))]
    exact Nat.div_add_mod n 10

/-- Only zero has a leading zero. -/
theorem digitValue_head_decimalDigits {n : Nat} {c : Char} (hn : n ≠ 0)
    (hc : c ∈ (decimalDigits n).head?) : digitValue c ≠ 0 := by
  fun_induction decimalDigits n with
  | case1 n h =>
    cases hc
    rwa [digitValue_digitChar h]
  | case2 n h ih =>
    rw [List.head?_append] at hc
    cases hhead : (decimalDigits (n / 10)).head? with
    | none => exact absurd (List.head?_eq_none_iff.1 hhead) (decimalDigits_ne_nil _)
    | some d =>
      rw [hhead] at hc ih
      exact ih (by omega) hc

/-- The decimal digits of an integer, with a minus sign when it is negative. -/
def integerText : Int → List Char
  | .ofNat n => decimalDigits n
  | .negSucc n => '-' :: decimalDigits (n + 1)

/-- Digits padded with zeros in front to at least `width`. -/
def padded (width : Nat) (n : Nat) : List Char :=
  let ds := decimalDigits n
  List.replicate (width - ds.length) '0' ++ ds

end Disclosure
