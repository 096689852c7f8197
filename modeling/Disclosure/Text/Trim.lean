import Disclosure.Unicode.Blank

/-!
# Trimming and splitting

White space removed from the ends of a text, texts cut at a character, and what texts begin and end
with.
-/

namespace Disclosure.Text

/-- Drop leading white space. -/
def trimLeft (s : List Char) : List Char :=
  s.dropWhile Unicode.isBlank

/-- Drop white space at both ends. -/
def trimChars (s : List Char) : List Char :=
  (trimLeft (trimLeft s).reverse).reverse

theorem trimLeft_of_not_isBlank {s : List Char} (h : ∀ c ∈ s, Unicode.isBlank c = false) :
    trimLeft s = s := by
  cases s with
  | nil => rfl
  | cons c s => simp [trimLeft, h c]

theorem trimChars_of_not_isBlank {s : List Char} (h : ∀ c ∈ s, Unicode.isBlank c = false) :
    trimChars s = s := by
  have hreverse : ∀ c ∈ s.reverse, Unicode.isBlank c = false := by simpa using h
  rw [trimChars, trimLeft_of_not_isBlank h, trimLeft_of_not_isBlank hreverse, List.reverse_reverse]

/-- Drop white space at both ends of a text. -/
def trim (s : String) : String :=
  String.ofList (trimChars s.toList)

/-- The pieces of a text between the characters that satisfy `p`; there is always one. -/
def splitAt (p : Char → Bool) : List Char → List (List Char)
  | [] => [[]]
  | c :: s =>
    match splitAt p s with
    | piece :: pieces => if p c then [] :: piece :: pieces else (c :: piece) :: pieces
    | [] => [[c]]

theorem splitAt_ne_nil (p : Char → Bool) (s : List Char) : splitAt p s ≠ [] := by
  cases s with
  | nil => simp [splitAt]
  | cons c s =>
    rw [splitAt]
    split
    · split <;> simp
    · simp

/-- A text is cut at every character that satisfies `p`. -/
theorem splitAt_append {p : Char → Bool} {c : Char} (hc : p c) (s t : List Char) :
    splitAt p (s ++ c :: t) = splitAt p s ++ splitAt p t := by
  induction s with
  | nil =>
    rw [List.nil_append, splitAt, splitAt]
    split
    · next h => simp [hc, h]
    · next h => exact absurd h (splitAt_ne_nil p t)
  | cons d s ih =>
    rw [List.cons_append, splitAt, ih, splitAt]
    cases h : splitAt p s with
    | nil => exact absurd h (splitAt_ne_nil p s)
    | cons piece pieces => by_cases hd : p d <;> simp [hd]

theorem splitAt_of_forall_not {p : Char → Bool} {s : List Char} (h : ∀ c ∈ s, p c = false) :
    splitAt p s = [s] := by
  induction s with
  | nil => rfl
  | cons c s ih =>
    rw [splitAt, ih fun d hd => h d (List.mem_cons_of_mem c hd)]
    simp [h c List.mem_cons_self]

theorem takeWhile_ne_append {c : Char} {s : List Char} (h : c ∉ s) (t : List Char) :
    (s ++ c :: t).takeWhile (· != c) = s := by
  have hall : ∀ d ∈ s, (d != c) = true := fun d hd => bne_iff_ne.2 fun heq => h (heq ▸ hd)
  rw [List.takeWhile_append_of_pos hall, List.takeWhile_cons_of_neg (by simp), List.append_nil]

theorem dropWhile_ne_append {c : Char} {s : List Char} (h : c ∉ s) (t : List Char) :
    (s ++ c :: t).dropWhile (· != c) = c :: t := by
  have hall : ∀ d ∈ s, (d != c) = true := fun d hd => bne_iff_ne.2 fun heq => h (heq ▸ hd)
  rw [List.dropWhile_append_of_pos hall, List.dropWhile_cons_of_neg (by simp)]

/-- Whether a text begins with `part`. -/
def startsWith (part s : String) : Bool :=
  part.toList.isPrefixOf s.toList

theorem startsWith_iff {part s : String} : startsWith part s ↔ part.toList <+: s.toList := by
  rw [startsWith, List.isPrefixOf_iff_prefix]

theorem startsWith_iff_exists {part s : String} :
    startsWith part s ↔ ∃ rest, s = part ++ rest := by
  rw [startsWith_iff]
  constructor
  · rintro ⟨rest, hrest⟩
    refine ⟨String.ofList rest, String.toList_injective ?_⟩
    simp [← hrest]
  · rintro ⟨rest, rfl⟩
    rw [String.toList_append]
    exact List.prefix_append _ _

/-- Whether a text ends with `part`. -/
def endsWith (part s : String) : Bool :=
  part.toList.isSuffixOf s.toList

theorem endsWith_iff {part s : String} : endsWith part s ↔ part.toList <:+ s.toList := by
  rw [endsWith, List.isSuffixOf_iff_suffix]

theorem endsWith_iff_exists {part s : String} :
    endsWith part s ↔ ∃ front, s = front ++ part := by
  rw [endsWith_iff]
  constructor
  · rintro ⟨front, hfront⟩
    refine ⟨String.ofList front, String.toList_injective ?_⟩
    simp [← hfront]
  · rintro ⟨front, rfl⟩
    rw [String.toList_append]
    exact List.suffix_append _ _

/-- A text without `part` at its end, if it ends so. -/
def dropEnd? (part s : String) : Option String :=
  if endsWith part s then
    some (String.ofList (s.toList.take (s.toList.length - part.toList.length)))
  else none

/-- Whether `part` occurs in a text. -/
def hasInfix (part : List Char) : List Char → Bool
  | [] => part.isEmpty
  | c :: s => part.isPrefixOf (c :: s) || hasInfix part s

theorem hasInfix_iff {part s : List Char} : hasInfix part s ↔ part <:+: s := by
  induction s with
  | nil => simp [hasInfix]
  | cons c s ih =>
    rw [hasInfix, Bool.or_eq_true, List.isPrefixOf_iff_prefix, ih, List.infix_cons_iff]

end Disclosure.Text
