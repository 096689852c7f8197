import Disclosure.Number.DecimalText
import Disclosure.Proofs.Number.Decimal

/-!
# Numbers as they are written

A plain number is a sign, digits, and perhaps a point with further digits. If its digits fit into a
mantissa and its places are no more than a decimal has, it is read as the very number that it writes
(`PlainNumber.exists_ofText?`): no digit is rounded off, and the power of ten is not looked for.
Integers are plain numbers, and zeros or signs that add nothing do not change the number
(`PlainNumber.Respelled.value_eq`).
-/

namespace Disclosure

/-- The sign in front of the digits of a number. -/
inductive Sign where
  | none
  | plus
  | minus

namespace Sign

/-- How a sign is written. -/
def chars : Sign → List Char
  | none => []
  | plus => ['+']
  | minus => ['-']

/-- The factor that a sign stands for. -/
def factor : Sign → ℤ
  | minus => -1
  | _ => 1

end Sign

lemma ne_sign_of_isDigit {c : Char} (h : isDigit c) : c ≠ '-' ∧ c ≠ '+' ∧ c ≠ '.' := by
  refine ⟨?_, ?_, ?_⟩ <;> rintro rfl <;> revert h <;> decide

lemma Sign.isBlank_eq_false {sign : Sign} : ∀ c ∈ sign.chars, Unicode.isBlank c = false := by
  cases sign with
  | none => exact nofun
  | plus => exact List.forall_mem_singleton.2 (by decide)
  | minus => exact List.forall_mem_singleton.2 (by decide)

lemma isBlank_of_isDigit {c : Char} (h : isDigit c) : Unicode.isBlank c = false := by
  have hfar : ∀ range ∈ Unicode.blanks, range.2 < 48 ∨ 57 < range.1 := by decide
  simp only [isDigit, Bool.and_eq_true, decide_eq_true_eq] at h
  rw [Unicode.isBlank, Unicode.Ranges.contains, List.any_eq_false]
  intro range hrange
  have := hfar range hrange
  simp only [Bool.and_eq_true, decide_eq_true_eq]
  omega

/-- A number written without a power of ten, that a decimal can hold. -/
structure PlainNumber where
  sign : Sign
  whole : List Char
  /-- The digits behind the point, if there is one. -/
  places? : Option (List Char)
  whole_ne_nil : whole ≠ []
  isDigit_whole : ∀ c ∈ whole, isDigit c
  isDigit_places : ∀ c ∈ places?.getD [], isDigit c
  readDigits_lt : readDigits 0 (whole ++ places?.getD []) < twoTo 96
  length_places_le : (places?.getD []).length ≤ 28

namespace PlainNumber

/-- The digits behind the point. -/
def places (p : PlainNumber) : List Char :=
  p.places?.getD []

/-- The text of a number. -/
def text (p : PlainNumber) : String :=
  String.ofList (p.sign.chars ++ p.whole ++ (p.places?.map ('.' :: ·)).getD [])

/-- The rational number that is written. -/
def value (p : PlainNumber) : ℚ :=
  p.sign.factor * readDigits 0 (p.whole ++ p.places) / 10 ^ p.places.length

end PlainNumber

/-- Whether a text is a plain number with the value `x`, but for white space around it. -/
def WritesNumber (t : String) (x : ℚ) : Prop :=
  ∃ p : PlainNumber, Text.trim t = p.text ∧ p.value = x

/-! ### Reading -/

namespace Decimal

variable {negative point start : Bool} {m scale : Nat} {c : Char} {ds s : List Char}

/-- A digit is taken into the mantissa, unless it is the last place and another one follows. -/
lemma readPlaces_digit (hc : isDigit c) (hm : 10 * m + digitValue c < mantissaBound)
    (hroom : point = true → s ≠ [] → scale + 1 < maxScale) :
    readPlaces negative point start m scale (c :: s) =
      readPlaces negative point true (10 * m + digitValue c)
        (if point then scale + 1 else 0) s := by
  rw [readPlaces, if_pos hc]
  simp only [hm, if_true]
  cases s with
  | nil => rfl
  | cons next s =>
    cases point with
    | false => simp
    | true =>
      have hscale := hroom rfl (List.cons_ne_nil next s)
      simp [Nat.not_le.2 hscale]

/-- The digits in front of the point. -/
lemma readPlaces_whole (hds : ∀ c ∈ ds, isDigit c) (hne : ds ≠ [])
    (hfits : readDigits m ds < mantissaBound) :
    readPlaces negative false start m scale (ds ++ s) =
      readPlaces negative false true (readDigits m ds) 0 s := by
  induction ds generalizing start m scale with
  | nil => exact absurd rfl hne
  | cons c ds ih =>
    obtain ⟨hc, hds⟩ := List.forall_mem_cons.1 hds
    have hm : 10 * m + digitValue c < mantissaBound := (le_readDigits _ ds).trans_lt hfits
    have hstep : readPlaces negative false start m scale (c :: (ds ++ s)) =
      readPlaces negative false true (10 * m + digitValue c) 0 (ds ++ s) :=
        readPlaces_digit hc hm (by simp)
    rw [List.cons_append, hstep, readDigits_cons]
    cases ds with
    | nil => rfl
    | cons d ds => exact ih hds (List.cons_ne_nil d ds) hfits

/-- The digits behind the point, none of which is rounded off. -/
lemma readPlaces_places (hds : ∀ c ∈ ds, isDigit c) (hfits : readDigits m ds < mantissaBound)
    (hscale : scale + ds.length ≤ maxScale) :
    readPlaces negative true true m scale ds =
      ofParts? negative (readDigits m ds) (scale + ds.length) := by
  induction ds generalizing m scale with
  | nil => rfl
  | cons c ds ih =>
    obtain ⟨hc, hds⟩ := List.forall_mem_cons.1 hds
    have hm : 10 * m + digitValue c < mantissaBound := (le_readDigits _ ds).trans_lt hfits
    rw [List.length_cons] at hscale ⊢
    have hroom : true = true → ds ≠ [] → scale + 1 < maxScale := by
      intro _ hne
      have := List.length_pos_iff.2 hne
      omega
    rw [readPlaces_digit hc hm hroom, readDigits_cons, if_pos rfl, ih hds hfits (by omega)]
    congr 1
    omega

lemma readPlaces_point :
    readPlaces negative false start m scale ('.' :: s) =
      readPlaces negative true start m scale s := by
  rw [readPlaces, if_neg (by decide)]
  rfl

lemma value_ofParts? {d : Decimal} (h : ofParts? negative m scale = some d) :
    d.value = (if negative then -1 else 1 : ℤ) * m / 10 ^ scale := by
  rw [ofParts?] at h
  split_ifs at h
  cases h
  rw [value, units]
  cases negative <;> by_cases hm : m = 0 <;> simp [hm]

end Decimal

namespace PlainNumber

open Decimal

variable (p : PlainNumber)

/-- Behind the sign a number is read to its last digit. -/
lemma readPlaces_eq (negative : Bool) :
    readPlaces negative false false 0 0 (p.whole ++ (p.places?.map ('.' :: ·)).getD []) =
      ofParts? negative (readDigits 0 (p.whole ++ p.places)) p.places.length := by
  have hfits : readDigits (readDigits 0 p.whole) p.places < mantissaBound := by
    rw [← readDigits_append]
    exact p.readDigits_lt
  have hwhole : readDigits 0 p.whole < mantissaBound := (le_readDigits _ _).trans_lt hfits
  rw [readPlaces_whole p.isDigit_whole p.whole_ne_nil hwhole, readDigits_append]
  cases hplaces : p.places? with
  | none =>
    have hnone : p.places = [] := by rw [places, hplaces]; rfl
    rw [hnone]
    rfl
  | some ds =>
    have hsome : p.places = ds := by rw [places, hplaces]; rfl
    have hdigits : ∀ c ∈ ds, isDigit c := hsome ▸ p.isDigit_places
    have hlength : 0 + ds.length ≤ maxScale := by
      rw [Nat.zero_add, ← hsome]
      exact p.length_places_le
    rw [hsome] at hfits ⊢
    rw [Option.map_some, Option.getD_some, readPlaces_point,
      readPlaces_places hdigits hfits hlength, Nat.zero_add]

lemma readPlain?_text :
    readPlain? p.text.toList =
      ofParts? (p.sign.factor == -1) (readDigits 0 (p.whole ++ p.places)) p.places.length := by
  rw [text, String.toList_ofList, List.append_assoc, ← readPlaces_eq]
  cases p.sign with
  | plus => rfl
  | minus => rfl
  | none =>
    obtain ⟨c, cs, hwhole⟩ := List.exists_cons_of_ne_nil p.whole_ne_nil
    have hc := ne_sign_of_isDigit (p.isDigit_whole c (by simp [hwhole]))
    rw [hwhole, Sign.chars, List.nil_append, List.cons_append, readPlain?]
    · rfl
    · simpa using hc.1
    · simpa using hc.2.1

/-- A plain number, also among white space, is read as the number that it writes. -/
lemma exists_ofText? {t : String} (h : Text.trim t = p.text) :
    ∃ d, Decimal.ofText? t = some d ∧ d.value = p.value := by
  have hparts : readDigits 0 (p.whole ++ p.places) < mantissaBound ∧ p.places.length ≤ maxScale :=
    ⟨p.readDigits_lt, p.length_places_le⟩
  have htrim : Text.trimChars t.toList = p.text.toList := by
    rw [← h, Text.trim, String.toList_ofList]
  obtain ⟨d, hd⟩ : ∃ d, ofParts? (p.sign.factor == -1) (readDigits 0 (p.whole ++ p.places))
      p.places.length = some d := by
    rw [ofParts?, dif_pos hparts]
    exact ⟨_, rfl⟩
  refine ⟨d, ?_, ?_⟩
  · rw [ofText?, htrim]
    simp [readPlain?_text, hd]
  · rw [value_ofParts? hd, value]
    cases p.sign <;> simp [Sign.factor]

/-! ### Spelling -/

lemma isBlank_eq_false {c : Char} (hc : c ∈ p.text.toList) : Unicode.isBlank c = false := by
  simp only [text, String.toList_ofList, List.mem_append] at hc
  rcases hc with (hsign | hwhole) | hplaces
  · exact Sign.isBlank_eq_false c hsign
  · exact isBlank_of_isDigit (p.isDigit_whole c hwhole)
  · cases hp : p.places? with
    | none =>
      rw [hp] at hplaces
      cases hplaces
    | some ds =>
      rw [hp, Option.map_some, Option.getD_some, List.mem_cons] at hplaces
      rcases hplaces with rfl | hplaces
      · decide
      · exact isBlank_of_isDigit (p.isDigit_places c (by rwa [hp]))

/-- No white space belongs to a plain number. -/
lemma trim_text : Text.trim p.text = p.text := by
  rw [Text.trim, Text.trimChars_of_not_isBlank fun _ => p.isBlank_eq_false, String.ofList_toList]

/-- An integer without further zeros or a plus sign. -/
def ofInt (n : ℤ) (h : n.natAbs < twoTo 96) : PlainNumber where
  sign := if n < 0 then .minus else .none
  whole := decimalDigits n.natAbs
  places? := none
  whole_ne_nil := decimalDigits_ne_nil _
  isDigit_whole _ := isDigit_of_mem_decimalDigits
  isDigit_places := nofun
  readDigits_lt := by simpa [readDigits_decimalDigits] using h
  length_places_le := by simp

lemma text_ofInt {n : ℤ} (h : n.natAbs < twoTo 96) :
    (ofInt n h).text = String.ofList (integerText n) := by
  cases n with
  | ofNat n =>
    have hsign : ¬ (n : ℤ) < 0 := by omega
    simp [ofInt, text, integerText, Sign.chars, hsign]
  | negSucc n => simp [ofInt, text, integerText, Sign.chars, Int.negSucc_lt_zero]

lemma value_ofInt {n : ℤ} (h : n.natAbs < twoTo 96) : (ofInt n h).value = n := by
  cases n with
  | ofNat n => simp [ofInt, value, places, Sign.factor, readDigits_decimalDigits]
  | negSucc n =>
    simp [ofInt, value, places, Sign.factor, readDigits_decimalDigits, Int.negSucc_lt_zero,
      Int.cast_negSucc]

/--
Two spellings of one number: but for white space they are the same, or the second one has zeros in
front or behind its places, a plus sign, or a minus sign before nothing but zeros.
-/
inductive Respelled (p : PlainNumber) : PlainNumber → Prop
  | same : Respelled p p
  | zerosInFront {q : PlainNumber} (k : Nat) (hsign : q.sign = p.sign)
      (hwhole : q.whole = List.replicate k '0' ++ p.whole) (hplaces : q.places = p.places) :
      Respelled p q
  | zerosBehind {q : PlainNumber} (k : Nat) (hsign : q.sign = p.sign) (hwhole : q.whole = p.whole)
      (hplaces : q.places = p.places ++ List.replicate k '0') : Respelled p q
  | plus {q : PlainNumber} (hp : p.sign = .none) (hq : q.sign = .plus) (hwhole : q.whole = p.whole)
      (hplaces : q.places = p.places) : Respelled p q
  | negativeZero {q : PlainNumber} (hq : q.sign = .minus) (hwhole : q.whole = p.whole)
      (hplaces : q.places = p.places) (hzero : ∀ c ∈ p.whole ++ p.places, c = '0') : Respelled p q

lemma readDigits_replicate (n k : Nat) : readDigits n (List.replicate k '0') = n * 10 ^ k := by
  induction k generalizing n with
  | zero => simp
  | succ k ih =>
    have hzero : digitValue '0' = 0 := by decide
    rw [List.replicate_succ, readDigits_cons, ih, hzero, pow_succ]
    ring

lemma Respelled.value_eq {p q : PlainNumber} (h : Respelled p q) : q.value = p.value := by
  cases h with
  | same => rfl
  | zerosInFront k hsign hwhole hplaces =>
    rw [value, value, hsign, hwhole, hplaces, List.append_assoc, readDigits_append,
      readDigits_replicate, zero_mul]
  | zerosBehind k hsign hwhole hplaces =>
    rw [value, value, hsign, hwhole, hplaces, ← List.append_assoc, readDigits_append,
      readDigits_replicate, List.length_append, List.length_replicate, pow_add]
    push_cast
    field_simp
  | plus hp hq hwhole hplaces =>
    rw [value, value, hp, hq, hwhole, hplaces]
    rfl
  | negativeZero hq hwhole hplaces hzero =>
    have hdigits : readDigits 0 (p.whole ++ p.places) = 0 := by
      rw [List.eq_replicate_of_mem hzero, readDigits_replicate, zero_mul]
    rw [value, value, hwhole, hplaces, hdigits]
    simp

end PlainNumber

/-- What a text writes is read. -/
lemma WritesNumber.exists_ofText? {t : String} {x : ℚ} (h : WritesNumber t x) :
    ∃ d, Decimal.ofText? t = some d ∧ d.value = x := by
  obtain ⟨p, ht, rfl⟩ := h
  exact p.exists_ofText? ht

end Disclosure
