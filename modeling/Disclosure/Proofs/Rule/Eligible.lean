import Disclosure.Proofs.Rule.Kept
import Disclosure.Proofs.Rule.Section

/-!
# Eligible entries

Whether an entry becomes a rule hangs on five of its fields and on the run: its kind can be told
from them, and its source fits the run (`Rule.Eligible`). Every such entry that is no comment
becomes one rule, whatever else is wrong with it, and no other entry does (`RuleSpec.one_rule_iff`).
-/

namespace Disclosure

open Json (Members)

/-! ### Source and kind -/

lemma SourceFilter.ofText?_eq_some_iff {s : String} {source : SourceFilter} :
    ofText? s = some source ↔ s = source.text := by
  constructor
  · intro h
    have htext := List.find?_some h
    exact (beq_iff_eq.1 htext).symm
  · rintro rfl
    cases source <;> rfl

namespace Rule

variable (ctx : RunScope) (entry : Members)

/-- Whether an entry has a validation code. -/
def HasCode : Prop :=
  ∃ code, entry.get? validationField = some (.str code)

/--
Whether an entry says which requirement it enforces: a section by its number, or one of the manual
if the field of the section is missing.
-/
def Cites : Prop :=
  (∃ s, entry.get? sectionField = some (.str s) ∧ NumbersSection s) ∨
    (entry.hasKey sectionField = false ∧ entry.hasKey manualField)

/--
Whether the kind of an entry can be told: it stores a value under a name, or it has a code and,
unless it is for one type of exhibit, a requirement.
-/
def TellsKind : Prop :=
  (∃ name, entry.get? storageField = some (.str name)) ∨
    (entry.hasKey storageField = false ∧ HasCode entry ∧ (ctx.exhibitSpecific ∨ Cites entry))

/--
Whether the source of an entry fits the run: it is a mode that does, or it is missing where none is
needed, in a run for exhibits or with a stored value that is not validated.
-/
def FitsRun : Prop :=
  (∃ source : SourceFilter, entry.get? sourceField = some (.str source.text) ∧
      source.appliesTo ctx.mode) ∨
    (entry.hasKey sourceField = false ∧
      (ctx.exhibitSpecific ∨ (entry.hasKey storageField ∧ ¬ HasCode entry)))

/-- Whether an entry is to become a rule: it is no comment, and both its kind and its source fit. -/
structure Eligible : Prop where
  content : ∃ m ∈ entry, RuleSpec.isRemark m.1 = false
  kind : TellsKind ctx entry
  source : FitsRun ctx entry

variable {ctx entry} {table : Members}

lemma isSome_code?_iff : (code? table entry).isSome ↔ HasCode entry := by
  rw [code?_eq, HasCode]
  cases entry.get? validationField with
  | none => simp
  | some v => cases v <;> simp [Json.string?]

lemma isSome_citation_iff : ((checkCitation entry).answer table).isSome ↔ Cites entry := by
  rw [checkCitation, Cites, hasKey_eq_false_iff]
  cases hv : entry.get? sectionField with
  | none => simp [Members.hasKey]
  | some v =>
    cases v with
    | str s =>
      have hnumber : isSectionNumber s.toList ↔ NumbersSection s := isSectionNumber_iff
      simp only [Option.some.injEq, Json.str.injEq, exists_eq_left', reduceCtorEq, false_and,
        or_false, ← hnumber]
      split_ifs with h <;> simp [h]
    | _ => simp

lemma isSome_kind?_iff : (kind? table ctx entry).isSome ↔ TellsKind ctx entry := by
  have hcode : (code? table entry).isSome ↔ HasCode entry := isSome_code?_iff
  have hcites : ((checkCitation entry).answer table).isSome ↔ Cites entry := isSome_citation_iff
  rw [TellsKind, ← hcode, ← hcites, kind?, hasKey_eq_false_iff]
  unfold checkKind
  cases hv : entry.get? storageField with
  | none =>
    cases code? table entry with
    | none => simp
    | some code => cases hexhibit : ctx.exhibitSpecific <;> simp
  | some v => cases v <;> simp

lemma any_source?_iff :
    (source? table ctx entry).any (·.appliesTo ctx.mode) ↔ FitsRun ctx entry := by
  have hsome : (code? table entry).isSome ↔ HasCode entry := isSome_code?_iff
  have hcode : (code? table entry).isNone ↔ ¬ HasCode entry := by
    rw [← hsome]
    simp
  rw [FitsRun, ← hcode, source?, checkSource, hasKey_eq_false_iff]
  cases hv : entry.get? sourceField with
  | none =>
    have hboth : SourceFilter.both.appliesTo ctx.mode := rfl
    simp only [reduceCtorEq, false_and, exists_false, true_and, false_or]
    split_ifs with hmissing
    · simpa [hboth] using hmissing
    · simpa using hmissing
  | some v =>
    cases v with
    | str s =>
      simp only [Option.some.injEq, Json.str.injEq, ← SourceFilter.ofText?_eq_some_iff,
        reduceCtorEq, false_and, or_false]
      cases SourceFilter.ofText? s with
      | none => simp
      | some source => simp
    | _ => simp

end Rule

/-! ### Specifications -/

namespace RuleSpec

variable (spec : RuleSpec) (ctx : RunScope)

lemma isComment_eq_false_iff {entry : Members} :
    Rule.isComment entry = false ↔ ∃ m ∈ entry, isRemark m.1 = false := by
  rw [Rule.isComment, List.all_eq_false]
  simp

lemma isSome_rule?_iff {position : Nat} {raw : Json} :
    (spec.rule? ctx position raw).isSome ↔ ∃ entry, raw = .obj entry ∧ Rule.Eligible ctx entry := by
  cases raw with
  | obj entry =>
    simp only [Json.obj.injEq, exists_eq_left']
    rw [rule?, Rule.check]
    split_ifs with hcomment
    · constructor
      · intro h
        cases h
      · rintro ⟨hcontent, -, -⟩
        rw [← isComment_eq_false_iff, hcomment] at hcontent
        cases hcontent
    · rw [Bool.not_eq_true, isComment_eq_false_iff] at hcomment
      rw [Rule.isSome_checkMembers, Rule.isSome_kind?_iff, Rule.any_source?_iff]
      constructor
      · rintro ⟨hkind, hsource⟩
        exact ⟨hcomment, hkind, hsource⟩
      · rintro ⟨-, hkind, hsource⟩
        exact ⟨hkind, hsource⟩
  | _ => simp [rule?, Rule.check]

/--
At a position there is one rule if the entry there is eligible, and else none: whether an entry
becomes a rule depends on its kind and source alone. The sections that count as cited are those
that match the pattern shown in messages.
-/
theorem one_rule_iff (i : Nat) :
    (((spec.compile ctx).rulesAt i).length = 1 ↔
        ∃ entry, spec.entries[i]? = some (.obj entry) ∧ Rule.Eligible ctx entry) ∧
      ((spec.compile ctx).rulesAt i = [] ↔
        ¬ ∃ entry, spec.entries[i]? = some (.obj entry) ∧ Rule.Eligible ctx entry) ∧
      ((spec.compile ctx).rulesAt i).length ≤ 1 ∧
      ∀ s, Rule.NumbersSection s ↔ (Regex.ofPattern? Rule.sectionForm).any (·.isMatch s) := by
  rw [rulesAt_compile, ← and_assoc, ← and_assoc]
  refine ⟨?_, fun _ => Rule.numbersSection_iff_isMatch⟩
  cases spec.entries[i]? with
  | none => simp
  | some raw =>
    have hrule : (spec.rule? ctx i raw).isSome ↔ ∃ entry, raw = .obj entry ∧
        Rule.Eligible ctx entry := isSome_rule?_iff spec ctx
    rw [Option.elim_some]
    simp only [Option.some.injEq, ← hrule]
    cases spec.rule? ctx i raw <;> simp

end RuleSpec

end Disclosure
