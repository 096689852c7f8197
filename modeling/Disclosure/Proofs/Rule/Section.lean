import Disclosure.Rule.Field
import Disclosure.Proofs.Regex.Reading
import Disclosure.Proofs.Regex.Search

/-!
# Sections by number

A section is cited by its number, and whether a text has one is checked by looking for a colon with
a digit. Messages show the form of a section as a pattern. The two say the same: the texts that pass
are those that the pattern matches (`Rule.numbersSection_iff_isMatch`).
-/

namespace Disclosure

namespace Rule

open Regex

/-! ### Section numbers -/

/-- Whether a text has, in its first line, a colon with a decimal digit right behind it. -/
def NumbersSection (s : String) : Prop :=
  ∃ before digit after, s.toList = before ++ ':' :: digit :: after ∧ '\n' ∉ before ∧
    Unicode.isDecimalDigit digit

lemma isSectionNumber_iff {s : List Char} :
    isSectionNumber s ↔ ∃ before digit after, s = before ++ ':' :: digit :: after ∧
      '\n' ∉ before ∧ Unicode.isDecimalDigit digit := by
  fun_induction isSectionNumber s with
  | case1 => simp
  | case2 d s ih =>
    rw [Bool.or_eq_true, ih]
    constructor
    · rintro (hd | ⟨before, digit, after, hs, hline, hdigit⟩)
      · exact ⟨[], d, s, rfl, List.not_mem_nil, hd⟩
      · exact ⟨':' :: before, digit, after, by rw [hs]; rfl, by simpa using hline, hdigit⟩
    · rintro ⟨before, digit, after, hs, hline, hdigit⟩
      cases before with
      | nil =>
        cases hs
        exact .inl hdigit
      | cons c before =>
        obtain ⟨-, htail⟩ := List.cons_eq_cons.1 hs
        rw [List.mem_cons, not_or] at hline
        exact .inr ⟨before, digit, after, htail, hline.2, hdigit⟩
  | case3 c s hcolon ih =>
    rw [Bool.and_eq_true, ih, bne_iff_ne]
    constructor
    · rintro ⟨hc, before, digit, after, rfl, hline, hdigit⟩
      exact ⟨c :: before, digit, after, rfl, by simp [hc.symm, hline], hdigit⟩
    · rintro ⟨before, digit, after, hs, hline, hdigit⟩
      cases before with
      | nil =>
        obtain ⟨rfl, rfl⟩ := List.cons_eq_cons.1 hs
        exact absurd rfl (hcolon digit after rfl)
      | cons c' before =>
        obtain ⟨rfl, rfl⟩ := List.cons_eq_cons.1 hs
        rw [List.mem_cons, not_or] at hline
        exact ⟨Ne.symm hline.1, before, digit, after, rfl, hline.2, hdigit⟩

/-! ### The form of sections -/

/-- The rest of a line. -/
def lineNode : Node := .times 0 none true (.chars (.compl (.single '\n')))

/-- Digits, as many as possible. -/
def digitsNode (lo : Nat) : Node := .times lo none true (.chars (.ranges Unicode.decimalDigits))

/-- More numbers, each behind a period. -/
def partsNode : Node := .times 0 none true (.seq (.chars (.single '.')) (digitsNode 1))

/-- The number of a section. -/
def numberNode : Node := .seq (digitsNode 1) partsNode

/-- The number of a section behind its colon. -/
def colonNode : Node := .seq (.chars (.single ':')) numberNode

/-- The form of a section. -/
def sectionNode : Node := .seq (.anchor .textStart) (.seq lineNode colonNode)

lemma ofPattern?_sectionForm :
    Regex.ofPattern? sectionForm = some ⟨sectionForm, sectionNode⟩ :=
  have hreads : Reads (.initial {}) sectionForm.toList _ [] :=
    .step rfl rfl (by decide) (.step rfl rfl (by decide) (.step rfl rfl (by decide)
      (.step rfl rfl (by decide) (.step rfl rfl (by decide) (.step rfl rfl (by decide)
      (.step rfl rfl (by decide) (.step rfl rfl (by decide) (.step rfl rfl (by decide)
      (.step rfl rfl (by decide) (.step rfl rfl (by decide) (.single rfl rfl (by decide))))))))))))
  hreads.ofPatternWith?_eq rfl (by decide) (by decide +kernel)

/-! ### Matches of the form -/

variable {p : Regex.Place} {s rest : List Char}

lemma exists_matches_lineNode_iff :
    (∃ q, lineNode.Matches p q ∧ q.behind = rest) ↔
      ∃ line, p.behind = line ++ rest ∧ '\n' ∉ line := by
  have hclass : ∀ c, (CharClass.compl (.single '\n')).contains c ↔ c ≠ '\n' := by
    simp [CharClass.contains, contains_single]
  constructor
  · rintro ⟨q, ⟨n, -, hturns⟩, rfl⟩
    obtain ⟨line, hbehind, hline⟩ := exists_of_turns_chars hturns
    exact ⟨line, hbehind, fun hmem => (hclass '\n').1 (hline _ hmem) rfl⟩
  · rintro ⟨line, hbehind, hline⟩
    have hchars : ∀ c ∈ line, (CharClass.compl (.single '\n')).contains c :=
      fun c hc => (hclass c).2 fun heq => hline (heq ▸ hc)
    obtain ⟨last, hturns⟩ := exists_turns_chars hchars p.before rest
    rw [← hbehind] at hturns
    exact ⟨⟨last, rest⟩, ⟨_, allows_none (Nat.zero_le _), hturns⟩, rfl⟩

/-- Behind the colon one digit is enough. -/
lemma exists_matches_colonNode_iff :
    (∃ q, colonNode.Matches p q) ↔
      ∃ digit after, p.behind = ':' :: digit :: after ∧ Unicode.isDecimalDigit digit := by
  constructor
  · rintro ⟨_, _, ⟨c, s, hc, hbehind, rfl⟩, _, ⟨n, hn, hturns⟩, -⟩
    rw [contains_single, decide_eq_true_eq] at hc
    cases n with
    | zero => simp [Allows] at hn
    | succ n =>
      obtain ⟨_, ⟨digit, after, hdigit, hs, -⟩, -⟩ := hturns
      exact ⟨digit, after, by rw [hbehind, hc, ← hs], hdigit⟩
  · rintro ⟨digit, after, hbehind, hdigit⟩
    have hcolon : (CharClass.single ':').contains ':' := by decide
    have hdigits : (digitsNode 1).Matches ⟨some ':', digit :: after⟩ ⟨some digit, after⟩ :=
      ⟨1, allows_none (Nat.le_refl 1), _, ⟨digit, after, hdigit, rfl, rfl⟩, rfl⟩
    have hparts : partsNode.Matches ⟨some digit, after⟩ ⟨some digit, after⟩ :=
      ⟨0, allows_none (Nat.zero_le 0), rfl⟩
    exact ⟨_, _, ⟨':', digit :: after, hcolon, hbehind, rfl⟩, _, hdigits, hparts⟩

/-- The form matches from the start of a text only. -/
lemma exists_matches_sectionNode_iff :
    (∃ p q, p.IsIn s ∧ sectionNode.Matches p q) ↔ isSectionNumber s := by
  rw [isSectionNumber_iff]
  constructor
  · rintro ⟨p, q, ⟨passed, rfl, hbefore⟩, _, ⟨hstart, rfl⟩, q', hline, hcolon⟩
    rw [Anchor.holds, hbefore, Option.isNone_iff_eq_none, List.getLast?_eq_none_iff] at hstart
    obtain ⟨line, hbehind, hnewline⟩ := exists_matches_lineNode_iff.1 ⟨q', hline, rfl⟩
    obtain ⟨digit, after, hnumber, hdigit⟩ := exists_matches_colonNode_iff.1 ⟨q, hcolon⟩
    exact ⟨line, digit, after, by rw [hstart, List.nil_append, hbehind, hnumber], hnewline, hdigit⟩
  · rintro ⟨line, digit, after, rfl, hnewline, hdigit⟩
    obtain ⟨q', hline, hbehind⟩ := exists_matches_lineNode_iff (p := ⟨none, _⟩).2
      ⟨line, rfl, hnewline⟩
    obtain ⟨q, hcolon⟩ := exists_matches_colonNode_iff.2 ⟨digit, after, hbehind, hdigit⟩
    exact ⟨_, q, ⟨[], rfl, rfl⟩, _, ⟨rfl, rfl⟩, q', hline, hcolon⟩

/-- The texts with a section number are those that match the form of sections. -/
lemma numbersSection_iff_isMatch {s : String} :
    NumbersSection s ↔ (Regex.ofPattern? sectionForm).any (·.isMatch s) := by
  rw [ofPattern?_sectionForm, Option.any_some, isMatch_iff, exists_matches_sectionNode_iff]
  exact isSectionNumber_iff.symm

end Rule

end Disclosure
