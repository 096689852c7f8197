import Disclosure.Fact.Precision
import Disclosure.Proofs.Number.Literal

/-!
# What the attributes of a fact tell about its precision

A readable count of places decides; otherwise a count of significant digits does, from the place of
the leading digit of the value; otherwise the value is exact (`Tells`). The precision is inferred in
this way for every value but zero (`infer_tells`), and no step of the calculation leaves its machine
word. Only the size of the value matters: neither its sign nor zeros behind its places change
anything, and a power of ten shifts the result.
-/

namespace Disclosure

namespace Precision

variable {attr : String} {places digits : Option String} {sign : Sign} {ds : List Char}
  {n p k : ℤ} {v : Decimal} {q : Precision}

/-! ### Literals -/

/-- Whether characters are an integer literal with a value in the range of numbers of places. -/
def Writes (s : List Char) (n : ℤ) : Prop :=
  ∃ (sign : Sign) (ds : List Char), s = sign.chars ++ ds ∧ ds ≠ [] ∧ (∀ c ∈ ds, isDigit c) ∧
    n = sign.factor * readDigits 0 ds ∧ minPlaces ≤ n ∧ n ≤ maxPlaces

/-- Whether an attribute is an integer literal, but for white space around it. -/
def IsLiteral (attr : String) (n : ℤ) : Prop :=
  Writes (Text.trim attr).toList n

/-- The sign is cut off, and the digits are read behind it. -/
lemma readPlaces?_chars (hne : ds ≠ []) (hds : ∀ c ∈ ds, isDigit c) :
    readPlaces? (sign.chars ++ ds) =
      if minPlaces ≤ sign.factor * readDigits 0 ds ∧ sign.factor * readDigits 0 ds ≤ maxPlaces then
        some (sign.factor * readDigits 0 ds)
      else none := by
  have hdigits : (ds.isEmpty || !ds.all isDigit) = false := by
    rw [List.all_eq_true.2 hds]
    simpa using hne
  cases sign with
  | plus => simp [readPlaces?, Sign.chars, Sign.factor, hdigits]
  | minus => simp [readPlaces?, Sign.chars, Sign.factor, hdigits]
  | none =>
    obtain ⟨c, cs, rfl⟩ := List.exists_cons_of_ne_nil hne
    have hc := ne_sign_of_isDigit (hds c List.mem_cons_self)
    rw [Sign.chars, List.nil_append, readPlaces?, hdigits]
    · simp [Sign.factor]
    · simpa using hc.1
    · simpa using hc.2.1

/-- What is read as an integer has the form of one. -/
lemma exists_chars_of_readPlaces? {s : List Char} (h : readPlaces? s = some n) :
    ∃ (sign : Sign) (ds : List Char), s = sign.chars ++ ds ∧ ds ≠ [] ∧ ∀ c ∈ ds, isDigit c := by
  have hdigits : ∀ {ds : List Char} {x : Option ℤ},
      (if ds.isEmpty || !ds.all isDigit then none else x) = some n →
        ds ≠ [] ∧ ∀ c ∈ ds, isDigit c := by
    intro ds x hx
    split_ifs at hx with hds
    simp only [Bool.or_eq_true, not_or, List.isEmpty_iff, Bool.not_eq_true', Bool.not_eq_false,
      List.all_eq_true] at hds
    exact hds
  unfold readPlaces? at h
  split at h
  next negative ds heq =>
    split at heq <;> cases heq
    · exact ⟨.minus, _, rfl, hdigits h⟩
    · exact ⟨.plus, _, rfl, hdigits h⟩
    · exact ⟨.none, _, rfl, hdigits h⟩

lemma readPlaces?_eq_some_iff {s : List Char} : readPlaces? s = some n ↔ Writes s n := by
  constructor
  · intro h
    obtain ⟨sign, ds, rfl, hne, hds⟩ := exists_chars_of_readPlaces? h
    rw [readPlaces?_chars hne hds] at h
    split_ifs at h with hrange
    cases h
    exact ⟨sign, ds, rfl, hne, hds, rfl, hrange⟩
  · rintro ⟨sign, ds, rfl, hne, hds, rfl, hrange⟩
    rw [readPlaces?_chars hne hds, if_pos hrange]

lemma readPlaces?_trim_eq_some_iff :
    readPlaces? (Text.trimChars attr.toList) = some n ↔ IsLiteral attr n := by
  rw [IsLiteral, Text.trim, String.toList_ofList, readPlaces?_eq_some_iff]

lemma readPlaces?_trim_eq_none_iff :
    readPlaces? (Text.trimChars attr.toList) = none ↔ ∀ n, ¬IsLiteral attr n := by
  simp only [← readPlaces?_trim_eq_some_iff, Option.eq_none_iff_forall_ne_some, ne_eq]

lemma not_isLiteral_of_exact (h : Text.trim attr = exactText) : ¬IsLiteral attr n := by
  have hnone : readPlaces? exactText.toList = none := rfl
  rw [IsLiteral, h, ← readPlaces?_eq_some_iff, hnone]
  simp

/-! ### Attributes -/

/-- Whether a count of places is absent, or is neither that of an exact value nor an integer. -/
def Unreadable (places : Option String) : Prop :=
  ∀ attr, places = some attr → Text.trim attr ≠ exactText ∧ ∀ n, ¬IsLiteral attr n

/-- What the attributes of a fact tell about a value with its leading digit at `10 ^ k`. -/
inductive Tells (k : ℤ) : Option String → Option String → Precision → Prop
  | exactly {attr : String} {digits : Option String} (h : Text.trim attr = exactText) :
      Tells k (some attr) digits .exact
  | places {attr : String} {n : ℤ} {digits : Option String} (h : IsLiteral attr n) :
      Tells k (some attr) digits (.places n)
  | digits {places : Option String} {attr : String} {p : ℤ} (hplaces : Unreadable places)
      (h : IsLiteral attr p) : Tells k places (some attr) (.places (clamp (p - k - 1)))
  | nothing {places digits : Option String} (hplaces : Unreadable places)
      (h : ∀ attr, digits = some attr → ∀ p, ¬IsLiteral attr p) : Tells k places digits .exact

lemma ofPlaces?_eq_some_iff : ofPlaces? attr = some q ↔
    Text.trim attr = exactText ∧ q = .exact ∨ ∃ n, IsLiteral attr n ∧ q = .places n := by
  simp only [ofPlaces?]
  split_ifs with hexact
  · simp [hexact, not_isLiteral_of_exact hexact, eq_comm]
  · simp only [Option.map_eq_some_iff, readPlaces?_eq_some_iff, hexact, false_and, false_or,
      IsLiteral, eq_comm (a := q)]

lemma bind_ofPlaces?_eq_none_iff : places.bind ofPlaces? = none ↔ Unreadable places := by
  cases places with
  | none => simp [Unreadable]
  | some attr =>
    rw [Option.bind_some, Option.eq_none_iff_forall_ne_some]
    simp only [ne_eq, ofPlaces?_eq_some_iff, not_or, not_and, not_exists, Unreadable,
      Option.some.injEq, forall_eq']
    constructor
    · intro h
      exact ⟨fun hexact => (h .exact).1 hexact rfl, fun n hn => (h (.places n)).2 n hn rfl⟩
    · intro h q
      exact ⟨fun hexact => absurd hexact h.1, fun n hn => absurd hn (h.2 n)⟩

lemma ofDigits_of_isLiteral (hv : v.value ≠ 0) (h : IsLiteral attr p) :
    ofDigits attr (some v) = .places (clamp (p - v.leadingExponent - 1)) := by
  simp only [ofDigits, readPlaces?_trim_eq_some_iff.2 h, if_neg (Decimal.mantissa_ne_zero_iff.2 hv)]

lemma ofDigits_of_not_isLiteral (h : ∀ p, ¬IsLiteral attr p) (value : Option Decimal) :
    ofDigits attr value = .exact := by
  simp only [ofDigits, readPlaces?_trim_eq_none_iff.2 h]

lemma tells_infer (hv : v.value ≠ 0) (places digits : Option String) :
    Tells v.leadingExponent places digits (infer places digits (some v)) := by
  unfold infer
  cases hplaces : places.bind ofPlaces? with
  | some q =>
    obtain ⟨attr, rfl, hattr⟩ := Option.bind_eq_some_iff.1 hplaces
    rcases ofPlaces?_eq_some_iff.1 hattr with ⟨hexact, rfl⟩ | ⟨n, hn, rfl⟩
    · exact .exactly hexact
    · exact .places hn
  | none =>
    have hunread := bind_ofPlaces?_eq_none_iff.1 hplaces
    cases digits with
    | none => exact .nothing hunread nofun
    | some attr =>
      by_cases h : ∃ p, IsLiteral attr p
      · obtain ⟨p, hp⟩ := h
        simp only [ofDigits_of_isLiteral hv hp]
        exact .digits hunread hp
      · have hnot := not_exists.1 h
        simp only [ofDigits_of_not_isLiteral hnot]
        exact .nothing hunread fun a ha => Option.some.inj ha ▸ hnot

lemma IsLiteral.unique (h : IsLiteral attr n) (h' : IsLiteral attr p) : n = p := by
  rw [← readPlaces?_trim_eq_some_iff] at h h'
  exact Option.some.inj (h.symm.trans h')

/-- The attributes tell one thing only. -/
lemma Tells.unique {q' : Precision} (h : Tells k places digits q) (h' : Tells k places digits q') :
    q = q' := by
  cases h with
  | exactly h =>
    cases h' with
    | exactly _ => rfl
    | places h' => exact absurd h' (not_isLiteral_of_exact h)
    | digits hplaces _ => exact absurd h (hplaces _ rfl).1
    | nothing _ _ => rfl
  | places h =>
    cases h' with
    | exactly h' => exact absurd h (not_isLiteral_of_exact h')
    | places h' => rw [h.unique h']
    | digits hplaces _ => exact absurd h ((hplaces _ rfl).2 _)
    | nothing hplaces _ => exact absurd h ((hplaces _ rfl).2 _)
  | digits hplaces h =>
    cases h' with
    | exactly h' => exact absurd h' (hplaces _ rfl).1
    | places h' => exact absurd h' ((hplaces _ rfl).2 _)
    | digits _ h' => rw [h.unique h']
    | nothing _ h' => exact absurd h (h' _ rfl _)
  | nothing hplaces h =>
    cases h' with
    | exactly _ => rfl
    | places h' => exact absurd h' ((hplaces _ rfl).2 _)
    | digits _ h' => exact absurd h' (h _ rfl _)
    | nothing _ _ => rfl

lemma infer_eq_iff (hv : v.value ≠ 0) :
    infer places digits (some v) = q ↔ Tells v.leadingExponent places digits q := by
  constructor
  · rintro rfl
    exact tells_infer hv places digits
  · exact (tells_infer hv places digits).unique

/-! ### Machine words -/

/-- An integer that a word of so many bits holds, half of its patterns for negative numbers. -/
def InWord (bits : Nat) (n : ℤ) : Prop :=
  -(2 : ℤ) ^ (bits - 1) ≤ n ∧ n < 2 ^ (bits - 1)

/--
The steps in the calculation of the places from a count `p` of significant digits: the exponent of
the leading digit in words of 32 bits, the places in words of 64 bits, and the result clamped.
-/
structure CalculatedInWords (v : Decimal) (p : ℤ) : Prop where
  log : InWord 32 (digitCount v.mantissa - 1)
  scale : InWord 32 v.scale
  exponent : InWord 32 v.leadingExponent
  difference : InWord 64 (p - v.leadingExponent)
  places : InWord 64 (p - v.leadingExponent - 1)
  result : InWord 32 (clamp (p - v.leadingExponent - 1))

lemma inWord_clamp (n : ℤ) : InWord 32 (clamp n) := by
  simp only [InWord, clamp, minPlaces, maxPlaces]
  omega

lemma calculatedInWords (v : Decimal) (hmin : minPlaces ≤ p) (hmax : p ≤ maxPlaces) :
    CalculatedInWords v p := by
  have hexponent := v.leadingExponent_bounds
  have hscale := v.scale_le
  have hlog : (digitCount v.mantissa : ℤ) - 1 = v.leadingExponent + v.scale := by
    rw [Decimal.leadingExponent]
    ring
  rw [minPlaces] at hmin
  rw [maxPlaces] at hmax
  constructor
  case result => exact inWord_clamp _
  all_goals simp only [InWord, hlog]; omega

/-! ### The precision of a value -/

/--
The leading digit is found exactly, and the attributes are read as they tell; no step overflows.
Hence a power of ten lowers the places that digits tell by its exponent, unless they are clamped,
and only the size of the value matters.
-/
theorem infer_tells (hv : v.value ≠ 0) :
    (∀ k : ℤ, v.leadingExponent = k ↔ (10 : ℚ) ^ k ≤ |v.value| ∧ |v.value| < 10 ^ (k + 1)) ∧
    (∀ places digits q,
      infer places digits (some v) = q ↔ Tells v.leadingExponent places digits q) ∧
    (∀ p, minPlaces ≤ p → p ≤ maxPlaces → CalculatedInWords v p) ∧
    (∀ (w : Decimal) (j : ℤ), w.value = v.value * 10 ^ j →
      ∀ places attr p, Unreadable places → IsLiteral attr p →
        infer places (some attr) (some v) = .places (clamp (p - v.leadingExponent - 1)) ∧
        infer places (some attr) (some w) = .places (clamp (p - v.leadingExponent - 1 - j))) ∧
    (∀ w : Decimal, |w.value| = |v.value| →
      ∀ places digits, infer places digits (some w) = infer places digits (some v)) := by
  refine ⟨?_, ?_, ?_, ?_, ?_⟩
  · intro k
    exact Decimal.leadingExponent_eq_iff hv
  · intro places digits q
    exact infer_eq_iff hv
  · intro p hmin hmax
    exact calculatedInWords v hmin hmax
  · intro w j hw places attr p hunread hp
    have hne : w.value ≠ 0 := by
      rw [hw]
      exact mul_ne_zero hv (by positivity)
    have hexponent : p - v.leadingExponent - 1 - j = p - w.leadingExponent - 1 := by
      rw [Decimal.leadingExponent_eq_add hv hw]
      ring
    rw [hexponent, infer_eq_iff hv, infer_eq_iff hne]
    exact ⟨.digits hunread hp, .digits hunread hp⟩
  · intro w hw places digits
    have hne : w.value ≠ 0 := by rwa [← abs_ne_zero, hw, abs_ne_zero]
    rw [infer_eq_iff hne, Decimal.leadingExponent_congr hv hw]
    exact tells_infer hv places digits

/-- Two digits of `0.0123`, `123.00` and `-0.01230`, beside a count of places that is no number. -/
theorem infer_tells_two_digits :
    let v : Decimal := ⟨false, 123, 4, by decide, by decide, by decide⟩
    let large : Decimal := ⟨false, 12300, 2, by decide, by decide, by decide⟩
    let negative : Decimal := ⟨true, 1230, 5, by decide, by decide, by decide⟩
    v.value ≠ 0 ∧ large.value = v.value * 10 ^ (4 : ℤ) ∧ |negative.value| = |v.value| ∧
      infer (some "n/a") (some " +2 ") (some v) = .places 3 ∧
      infer (some "n/a") (some " +2 ") (some large) = .places (-1) ∧
      infer (some "n/a") (some " +2 ") (some negative) = .places 3 := by
  intro v large negative
  have hv : v.value ≠ 0 := Decimal.mantissa_ne_zero_iff.1 (by decide)
  have hlarge : large.value = v.value * 10 ^ (4 : ℤ) := by
    norm_num [v, large, Decimal.value, Decimal.units]
  have hnegative : |negative.value| = |v.value| := by
    norm_num [v, negative, Decimal.abs_value]
  have hunread : Unreadable (some "n/a") := bind_ofPlaces?_eq_none_iff.1 (by decide)
  have hdigits : IsLiteral " +2 " 2 := readPlaces?_trim_eq_some_iff.1 (by decide)
  have hexponent : v.leadingExponent = -2 :=
    ((infer_tells hv).1 (-2)).2 (by norm_num [v, Decimal.abs_value])
  obtain ⟨hsmall, hscaled⟩ := (infer_tells hv).2.2.2.1 large 4 hlarge _ _ 2 hunread hdigits
  rw [hexponent] at hsmall hscaled
  refine ⟨hv, hlarge, hnegative, hsmall, hscaled, ?_⟩
  rw [(infer_tells hv).2.2.2.2 negative hnegative]
  exact hsmall

end Precision

end Disclosure
