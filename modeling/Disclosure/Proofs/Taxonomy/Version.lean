import Mathlib
import Disclosure.Taxonomy.Family

/-!
# The order of versions

Versions are compared by the numbers that their runs of digits write, and by their text where these
numbers are the same. This is a total order, in which different versions are never equal
(`versionOrder_numeric`).
-/

namespace Disclosure

/-! ### Laws of the order -/

lemma versionOrder_eq : versionOrder = compareLex (compareOn versionNumbers) compare := rfl

instance : Std.TransCmp versionOrder :=
  inferInstanceAs (Std.TransCmp (compareLex (compareOn versionNumbers) compare))

instance : Std.LawfulEqCmp versionOrder where
  eq_of_compare h := by
    rw [versionOrder_eq, compareLex_eq_eq] at h
    exact Std.LawfulEqOrd.eq_of_compare h.2

lemma versionOrder_self_ne_gt (v : String) : versionOrder v v ≠ .gt := by
  have heq : versionOrder v v = .eq := Std.ReflCmp.compare_self
  rw [heq]
  decide

/-- Whether a text comes before another one by code points. -/
def CodePointLess (a b : String) : Prop :=
  List.Lex (fun c d => c.toNat < d.toNat) a.toList b.toList

lemma compare_numbers_eq_lt_iff {ns ms : List Nat} :
    compare ns ms = .lt ↔ List.Lex (· < ·) ns ms := by
  induction ns generalizing ms with
  | nil =>
    cases ms with
    | nil => simp
    | cons m ms => exact ⟨fun _ => .nil, fun _ => rfl⟩
  | cons n ns ih =>
    cases ms with
    | nil => exact ⟨nofun, nofun⟩
    | cons m ms =>
      have hcons : compare (n :: ns) (m :: ms) = (compare n m).then (compare ns ms) :=
        List.compareLex_cons_cons
      rw [hcons, Ordering.then_eq_lt, Nat.compare_eq_lt, Nat.compare_eq_eq, ih,
        List.cons_lex_cons_iff]

lemma versionOrder_eq_lt_iff {a b : String} : versionOrder a b = .lt ↔
    List.Lex (· < ·) (versionNumbers a) (versionNumbers b) ∨
      versionNumbers a = versionNumbers b ∧ CodePointLess a b := by
  have htext : compare a b = .lt ↔ CodePointLess a b := compare_lt_iff_lt
  rw [versionOrder, compareLex, Ordering.then_eq_lt, compare_numbers_eq_lt_iff,
    Std.LawfulEqOrd.compare_eq_iff_eq, htext]

/-! ### Runs of digits -/

/--
The runs of digits in a text, in order. A run is followed by no digit, and as no digit is passed
over, there is none in front of it either.
-/
inductive DigitRuns : List Char → List (List Char) → Prop
  | nil : DigitRuns [] []
  | other {c : Char} {s : List Char} {runs : List (List Char)} (hc : isDigit c = false)
      (rest : DigitRuns s runs) : DigitRuns (c :: s) runs
  | run {ds s : List Char} {runs : List (List Char)} (hne : ds ≠ []) (hds : ∀ c ∈ ds, isDigit c)
      (hend : ∀ c ∈ s.head?, isDigit c = false) (rest : DigitRuns s runs) :
      DigitRuns (ds ++ s) (ds :: runs)

/-- The pieces between characters that are no digits, without the empty ones. -/
def digitPieces (s : List Char) : List (List Char) :=
  (Text.splitAt (!isDigit ·) s).filter (!·.isEmpty)

lemma digitPieces_cons {c : Char} (hc : isDigit c = false) (s : List Char) :
    digitPieces (c :: s) = digitPieces s := by
  have hsplit : Text.splitAt (!isDigit ·) (c :: s) = [] :: Text.splitAt (!isDigit ·) s :=
    Text.splitAt_append (by simpa using hc) [] s
  rw [digitPieces, hsplit]
  rfl

lemma digitPieces_append {ds s : List Char} (hne : ds ≠ []) (hds : ∀ c ∈ ds, isDigit c)
    (hend : ∀ c ∈ s.head?, isDigit c = false) : digitPieces (ds ++ s) = ds :: digitPieces s := by
  have hpiece : Text.splitAt (!isDigit ·) ds = [ds] :=
    Text.splitAt_of_forall_not fun c hc => by simp [hds c hc]
  cases s with
  | nil => simp [digitPieces, hpiece, hne, Text.splitAt]
  | cons c s =>
    have hc : isDigit c = false := hend c rfl
    rw [digitPieces_cons hc, digitPieces, Text.splitAt_append (by simpa using hc), hpiece]
    simp [digitPieces, hne]

lemma DigitRuns.eq_digitPieces {s : List Char} {runs : List (List Char)} (h : DigitRuns s runs) :
    runs = digitPieces s := by
  induction h with
  | nil => rfl
  | other hc _ ih => rw [digitPieces_cons hc, ih]
  | run hne hds hend _ ih => rw [digitPieces_append hne hds hend, ih]

lemma digitRuns_digitPieces (s : List Char) : DigitRuns s (digitPieces s) := by
  match s with
  | [] => exact .nil
  | c :: s =>
    by_cases hc : isDigit c
    · have hsplit : c :: s = (c :: s.takeWhile isDigit) ++ s.dropWhile isDigit := by
        rw [List.cons_append, List.takeWhile_append_dropWhile]
      have hds : ∀ d ∈ c :: s.takeWhile isDigit, isDigit d :=
        List.forall_mem_cons.2 ⟨hc, fun _ => List.mem_takeWhile_imp⟩
      have hend : ∀ d ∈ (s.dropWhile isDigit).head?, isDigit d = false := by
        intro d hd
        have hnot := List.head?_dropWhile_not isDigit s
        rwa [Option.mem_def.1 hd] at hnot
      rw [hsplit, digitPieces_append (by simp) hds hend]
      exact .run (by simp) hds hend (digitRuns_digitPieces (s.dropWhile isDigit))
    · rw [Bool.not_eq_true] at hc
      rw [digitPieces_cons hc]
      exact .other hc (digitRuns_digitPieces s)
termination_by s.length
decreasing_by
  · exact Nat.lt_succ_of_le (List.length_dropWhile_le isDigit s)
  · exact Nat.lt_succ_self s.length

lemma existsUnique_digitRuns (s : List Char) : ∃! runs, DigitRuns s runs :=
  ⟨digitPieces s, digitRuns_digitPieces s, fun _ h => h.eq_digitPieces⟩

/-- The numbers of a version are those that its runs write and that fit into 64 bits. -/
lemma versionNumbers_eq {v : String} {runs : List (List Char)} (h : DigitRuns v.toList runs) :
    versionNumbers v = (runs.map (readDigits 0)).filter (· < 2 ^ 64) := by
  have hbound : twoTo 64 = 2 ^ 64 := rfl
  rw [h.eq_digitPieces, versionNumbers, digitPieces, hbound]
  generalize 2 ^ 64 = bound
  induction Text.splitAt (!isDigit ·) v.toList with
  | nil => rfl
  | cons ds pieces ih =>
    rw [List.filterMap_cons, ih]
    by_cases hnil : ds = []
    · simp [hnil]
    · by_cases hlt : readDigits 0 ds < bound <;> simp [hnil, hlt]

lemma versionNumbers_of_forall_lt {v : String} {runs : List (List Char)}
    (h : DigitRuns v.toList runs) (hfit : ∀ ds ∈ runs, readDigits 0 ds < 2 ^ 64) :
    versionNumbers v = runs.map (readDigits 0) := by
  rw [versionNumbers_eq h, List.filter_eq_self]
  simpa using hfit

/-! ### The order -/

/--
Versions are totally ordered, and only a version itself is equal to it. Where all runs of digits
write numbers of 64 bits, the lists of these numbers decide, a list that begins another one coming
before it; the texts decide between versions with the same numbers.
-/
theorem versionOrder_numeric :
    (∀ a b, versionOrder a b = .eq ↔ a = b) ∧
      (∀ a b, versionOrder b a = (versionOrder a b).swap) ∧
      (∀ a b c, (versionOrder a b).isLE → (versionOrder b c).isLE → (versionOrder a c).isLE) ∧
      (∀ v : String, ∃! runs, DigitRuns v.toList runs) ∧
      ∀ (a b : String) (runs runs' : List (List Char)),
        DigitRuns a.toList runs → DigitRuns b.toList runs' →
        (∀ ds ∈ runs ++ runs', readDigits 0 ds < 2 ^ 64) →
          (versionOrder a b = .lt ↔
            List.Lex (· < ·) (runs.map (readDigits 0)) (runs'.map (readDigits 0)) ∨
              runs.map (readDigits 0) = runs'.map (readDigits 0) ∧ CodePointLess a b) := by
  refine ⟨fun a b => Std.LawfulEqCmp.compare_eq_iff_eq, fun a b => Std.OrientedCmp.eq_swap,
    fun a b c => Std.TransCmp.isLE_trans, fun v => existsUnique_digitRuns v.toList, ?_⟩
  intro a b runs runs' ha hb hfit
  obtain ⟨hfita, hfitb⟩ := List.forall_mem_append.1 hfit
  rw [versionOrder_eq_lt_iff, versionNumbers_of_forall_lt ha hfita,
    versionNumbers_of_forall_lt hb hfitb]

/-- A zero in front of a number makes a difference only where the numbers are the same. -/
theorem versionOrder_numeric_padded :
    DigitRuns "2024-01".toList [['2', '0', '2', '4'], ['0', '1']] ∧
      DigitRuns "v2024-1".toList [['2', '0', '2', '4'], ['1']] ∧
      (∀ ds ∈ [['2', '0', '2', '4'], ['0', '1']] ++ [['2', '0', '2', '4'], ['1']],
        readDigits 0 ds < 2 ^ 64) ∧
      versionOrder "2024-01" "v2024-1" = .lt := by
  have hpadded : DigitRuns "2024-01".toList [['2', '0', '2', '4'], ['0', '1']] :=
    digitRuns_digitPieces _
  have hmarked : DigitRuns "v2024-1".toList [['2', '0', '2', '4'], ['1']] :=
    digitRuns_digitPieces _
  have hfit : ∀ ds ∈ [['2', '0', '2', '4'], ['0', '1']] ++ [['2', '0', '2', '4'], ['1']],
      readDigits 0 ds < 2 ^ 64 := by decide
  -- both have the numbers 2024 and 1, so the first characters decide
  have hless : CodePointLess "2024-01" "v2024-1" := .rel (by decide)
  obtain ⟨-, -, -, -, hdecided⟩ := versionOrder_numeric
  exact ⟨hpadded, hmarked, hfit, (hdecided _ _ _ _ hpadded hmarked hfit).2 (.inr ⟨rfl, hless⟩)⟩

end Disclosure
