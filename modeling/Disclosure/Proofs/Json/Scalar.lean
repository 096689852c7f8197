import Mathlib.Data.List.Nodup
import Disclosure.Json.Document
import Disclosure.Json.Text

/-!
# Reading back strings and numbers

A string is read back from how it is written, character by character: every character stands for
itself, behind a backslash, or as four digits (`Written`). An integer of 64 bits is read back from
its decimal digits, if nothing behind them continues a number.
-/

namespace Disclosure.Json

variable {c : Char} {n : Nat} {negative : Bool} {rest : List Char}

/-! ### Strings -/

/-- A character is written as itself, behind a backslash in short form, or by its number. -/
inductive Written (c : Char) : List Char → Prop
  | plain (hlow : 32 ≤ c.toNat) (hquote : c ≠ '"') (hslash : c ≠ '\\') : Written c [c]
  | short {e : Char} (he : e ≠ 'u') (h : unescape? e = some c) (hlow : 32 ≤ e.toNat) :
      Written c ['\\', e]
  | number (hlow : c.toNat < 32) :
      Written c ['\\', 'u', '0', '0', hexDigit (c.toNat / 16), hexDigit (c.toNat % 16)]

lemma written_short {e d : Char} (hc : c.toNat = n) (hd : d.toNat = n) (he : e ≠ 'u')
    (hlow : 32 ≤ e.toNat) (h : unescape? e = some d) : Written c ['\\', e] := by
  obtain rfl : c = d := Char.toNat_inj.1 (hc.trans hd.symm)
  exact .short he h hlow

lemma written_escape (c : Char) : Written c (escape c) := by
  rw [escape]
  split
  · next h => exact written_short h (d := '"') rfl (by decide) (by decide) rfl
  · next h => exact written_short h (d := '\\') rfl (by decide) (by decide) rfl
  · next h => exact written_short h (d := '\x08') rfl (by decide) (by decide) rfl
  · next h => exact written_short h (d := '\t') rfl (by decide) (by decide) rfl
  · next h => exact written_short h (d := '\n') rfl (by decide) (by decide) rfl
  · next h => exact written_short h (d := '\x0c') rfl (by decide) (by decide) rfl
  · next h => exact written_short h (d := '\r') rfl (by decide) (by decide) rfl
  · next hquote hslash _ _ _ _ _ =>
    split_ifs with hlow
    · exact .number hlow
    · refine .plain (by omega) ?_ ?_
      · rintro rfl
        exact hquote rfl
      · rintro rfl
        exact hslash rfl

lemma hexValue?_hexDigit {d : Nat} (h : d < 16) : hexValue? (hexDigit d) = some d := by
  have : ∀ d < 16, hexValue? (hexDigit d) = some d := by decide
  exact this d h

/-- A control character is read back from its four digits. -/
lemma hexQuad?_control (h : c.toNat < 32) :
    hexQuad? '0' '0' (hexDigit (c.toNat / 16)) (hexDigit (c.toNat % 16)) = some c.toNat := by
  have hzero : hexValue? '0' = some 0 := by decide
  have hhigh : hexValue? (hexDigit (c.toNat / 16)) = some (c.toNat / 16) :=
    hexValue?_hexDigit (by omega)
  have hlow : hexValue? (hexDigit (c.toNat % 16)) = some (c.toNat % 16) :=
    hexValue?_hexDigit (by omega)
  rw [hexQuad?, hzero, hhigh, hlow]
  simp
  omega

/-- A character is read back from how it is written in a string. -/
lemma Written.scanString {w : List Char} (h : Written c w) (done s : List Char) :
    scanString none none done (w ++ s) = scanString none none (c :: done) s := by
  cases h with
  | plain hlow hquote hslash =>
    have hlow : ¬ c.toNat < 32 := by omega
    simp [Json.scanString, hslash, hlow]
  | short he h => simp [Json.scanString, he, h]
  | number hlow =>
    have hfirst : isHighSurrogate c.toNat = false := by simp [isHighSurrogate]; omega
    have hsecond : isLowSurrogate c.toNat = false := by simp [isLowSurrogate]; omega
    simp [Json.scanString, hexQuad?_control hlow, hfirst, hsecond, Char.ofNat_toNat]

lemma scanString_flatMap_escape (s done rest : List Char) :
    scanString none none done (s.flatMap escape ++ '"' :: rest) =
      .value (String.ofList (done.reverse ++ s)) rest := by
  induction s generalizing done with
  | nil => simp [scanString]
  | cons c s ih =>
    rw [List.flatMap_cons, List.append_assoc, (written_escape c).scanString, ih, List.reverse_cons,
      List.append_assoc, List.singleton_append]

/-- A string is read back from its text behind the opening quote. -/
lemma scanString_quote (s : String) (rest : List Char) :
    scanString none none [] (s.toList.flatMap escape ++ '"' :: rest) = .value s rest := by
  rw [scanString_flatMap_escape, List.reverse_nil, List.nil_append, String.ofList_toList]

/-! ### Numbers -/

/-- What may stand behind a value: nothing, a comma or the end of a list or object. -/
inductive Delimits : List Char → Prop
  | nil : Delimits []
  | comma (s : List Char) : Delimits (',' :: s)
  | bracket (s : List Char) : Delimits (']' :: s)
  | brace (s : List Char) : Delimits ('}' :: s)

lemma Delimits.takeWhile_isDigit (h : Delimits rest) : rest.takeWhile isDigit = [] := by
  cases h <;> rfl

lemma takeDigits_eq {ds : List Char} (h : readDigits n ds ≤ maxInteger) :
    takeDigits n ds = (readDigits n ds, ds.length) := by
  induction ds generalizing n with
  | nil => rfl
  | cons d ds ih =>
    rw [readDigits_cons] at h
    have hnext : 10 * n + digitValue d ≤ maxInteger := Nat.le_trans (le_readDigits _ ds) h
    rw [takeDigits, if_pos hnext, ih h, readDigits_cons]
    rfl

lemma scanFraction_of_delimits (ds : List Char) (h : Delimits rest) :
    scanFraction negative ds rest = endNumber negative ds none none rest := by
  cases h <;> rfl

lemma span_decimalDigits (n : Nat) (h : Delimits rest) :
    (decimalDigits n ++ rest).takeWhile isDigit = decimalDigits n ∧
      (decimalDigits n ++ rest).dropWhile isDigit = rest := by
  have hdigits : ∀ c ∈ decimalDigits n, isDigit c = true := fun c => isDigit_of_mem_decimalDigits
  have hrest : rest.dropWhile isDigit = rest := by cases h <;> rfl
  rw [List.takeWhile_append_of_pos hdigits, List.dropWhile_append_of_pos hdigits,
    h.takeWhile_isDigit, hrest, List.append_nil]
  exact ⟨rfl, rfl⟩

lemma scanMagnitude_decimalDigits (negative : Bool) (n : Nat) (h : Delimits rest) :
    scanMagnitude negative (decimalDigits n ++ rest) =
      endNumber negative (decimalDigits n) none none rest := by
  obtain ⟨htake, hdrop⟩ := span_decimalDigits n h
  by_cases hn : n = 0
  · subst hn
    have hzero : decimalDigits 0 = ['0'] := by
      rw [decimalDigits]
      rfl
    rw [hzero, List.singleton_append, scanMagnitude, h.takeWhile_isDigit]
    exact scanFraction_of_delimits _ h
  · cases hds : decimalDigits n with
    | nil => exact absurd hds (decimalDigits_ne_nil n)
    | cons d ds =>
      have hd : d ≠ '0' := by
        rintro rfl
        exact digitValue_head_decimalDigits hn (by rw [hds]; rfl) rfl
      rw [hds] at htake hdrop
      rw [List.cons_append] at htake hdrop ⊢
      rw [scanMagnitude]
      · simp only [htake, hdrop]
        exact scanFraction_of_delimits _ h
      · simpa using hd

lemma numberOf?_decimalDigits (h : n ≤ maxInteger) :
    numberOf? negative (decimalDigits n) none none = integerNumber? negative n := by
  have hread : readDigits 0 (decimalDigits n) ≤ maxInteger := by rwa [readDigits_decimalDigits]
  rw [numberOf?, takeDigits_eq hread, readDigits_decimalDigits]
  simp

lemma endNumber_decimalDigits {m : Number} (h : n ≤ maxInteger)
    (hm : integerNumber? negative n = some m) :
    endNumber negative (decimalDigits n) none none rest = .value m rest := by
  rw [endNumber, numberOf?_decimalDigits h, hm]

lemma head_decimalDigits (n : Nat) : ∃ d ds, decimalDigits n = d :: ds ∧ isDigit d = true := by
  cases hds : decimalDigits n with
  | nil => exact absurd hds (decimalDigits_ne_nil n)
  | cons d ds =>
    refine ⟨d, ds, rfl, isDigit_of_mem_decimalDigits (n := n) ?_⟩
    rw [hds]
    exact List.mem_cons_self

/-- An integer of 64 bits is read back from its text. -/
lemma scanNumber_integerText {i : Int} (hlow : -twoTo 63 ≤ i) (hhigh : i < twoTo 64)
    (h : Delimits rest) : scanNumber (integerText i ++ rest) = .value (.int i) rest := by
  cases i with
  | ofNat n =>
    have hn : n ≤ maxInteger := by
      rw [Int.ofNat_eq_natCast] at hhigh
      rw [maxInteger]
      omega
    obtain ⟨d, ds, hds, hd⟩ := head_decimalDigits n
    have hminus : d ≠ '-' := by
      rintro rfl
      cases hd
    have hscan : scanNumber (decimalDigits n ++ rest) =
        scanMagnitude false (decimalDigits n ++ rest) := by
      rw [hds, List.cons_append, scanNumber]
      simpa using hminus
    rw [integerText, hscan, scanMagnitude_decimalDigits false n h]
    exact endNumber_decimalDigits hn rfl
  | negSucc n =>
    have hn : n + 1 ≤ twoTo 63 := by omega
    have hmax : twoTo 63 ≤ maxInteger := by decide
    have hint : integerNumber? true (n + 1) = some (.int (Int.negSucc n)) := by
      rw [integerNumber?, if_pos rfl, if_pos ⟨n.succ_pos, hn⟩]
      rfl
    rw [integerText, List.cons_append, scanNumber, scanMagnitude_decimalDigits true (n + 1) h]
    exact endNumber_decimalDigits (Nat.le_trans hn hmax) hint

/-- A text that begins with a digit or a minus sign is read as a number. -/
lemma scanScalar_number (s : List Char) (hc : c = '-' ∨ isDigit c = true) :
    scanScalar (c :: s) = (scanNumber (c :: s)).toDoc .num := by
  have hne : c ≠ '"' ∧ c ≠ 'n' ∧ c ≠ 't' ∧ c ≠ 'f' := by
    refine ⟨?_, ?_, ?_, ?_⟩ <;>
    · rintro rfl
      revert hc
      decide
  obtain ⟨hquote, hn, ht, hf⟩ := hne
  rw [scanScalar, if_pos (by simpa using hc)] <;> assumption

end Disclosure.Json
