import Disclosure.Proofs.Rule.Resolved
import Disclosure.Proofs.Token.Selection

/-!
# Rules for a submission

The rules of a specification without errors apply to a submission by what their entries say, with
all groups expanded: the type of the submission is among the types listed, or matches the pattern
for them, and the form is among the forms listed, if any are (`RuleSpec.mem_applicable_iff`). A list
with the wildcard or the word for all types stands for every type.
-/

namespace Disclosure

open Json (Members)

namespace Rule

variable {table : Members} {entry : Members}

/-- The leaves that the first present of two fields has; none if neither is present. -/
def FieldLeaves (classes : Members) (entry : Members) (field orElse : String)
    (leaves : List String) : Prop :=
  match entry.get? field <|> entry.get? orElse with
  | some v => v.Unfolds classes leaves
  | none => leaves = []

lemma fieldLeaves_of_checkTokens {field orElse : String} {s : Selection}
    (h : (checkTokens field (entry.get? field <|> entry.get? orElse)).Yields table s) :
    ∃ leaves, FieldLeaves table entry field orElse leaves ∧ s = .ofTokens (.ofList leaves) := by
  unfold FieldLeaves
  cases hraw : entry.get? field <|> entry.get? orElse with
  | none =>
    rw [hraw] at h
    exact ⟨[], rfl, (Check.yields_pure_iff.1 h).symm⟩
  | some raw =>
    rw [hraw] at h
    have hresolve := Check.yields_resolve_iff.1 h
    cases hr : unrollValue table raw with
    | error e =>
      rw [hr] at hresolve
      cases hresolve
    | ok ts =>
      obtain ⟨leaves, hleaves, rfl⟩ := unfolds_unrollValue hr
      rw [hr] at hresolve
      exact ⟨leaves, hleaves, (Except.ok.inj hresolve).symm⟩

lemma FieldLeaves.unique {field orElse : String} {leaves leaves' : List String}
    (h : FieldLeaves table entry field orElse leaves)
    (h' : FieldLeaves table entry field orElse leaves') : leaves = leaves' := by
  unfold FieldLeaves at h h'
  split at h
  · next v hv =>
    rw [hv] at h'
    exact h.unique h'
  · next hv =>
    rw [hv] at h'
    exact h.trans h'.symm

/-- What is said of some leaves of a field is said of its leaves. -/
lemma FieldLeaves.exists_and_iff {field orElse : String} {leaves : List String}
    (h : FieldLeaves table entry field orElse leaves) {P : List String → Prop} :
    (∃ leaves, FieldLeaves table entry field orElse leaves ∧ P leaves) ↔ P leaves := by
  constructor
  · rintro ⟨leaves', hleaves', hP⟩
    rwa [h.unique hleaves']
  · intro hP
    exact ⟨leaves, h, hP⟩

/-! ### Patterns by their keys -/

lemma lookup_of_resolvesPattern {field : String} {re : Regex} {ps : List (String × Regex)}
    (hfield : isPatternKey (field ++ "-pattern"))
    (h : List.Forall₂ ResolvesPattern (entry.filter (isPatternKey ·.1)) ps) :
    ps.lookup field = some re ↔ ∃ s, entry.get? (field ++ "-pattern") = some (.str s) ∧
      Regex.ofPattern? s = some re := by
  induction entry generalizing ps with
  | nil =>
    cases h
    simp
  | cons m entry ih =>
    obtain ⟨key, value⟩ := m
    rw [Members.get?_cons]
    by_cases hkey : isPatternKey key
    · rw [List.filter_cons_of_pos (by simpa using hkey)] at h
      cases h with
      | @cons _ p _ ps hp hrest =>
        obtain ⟨base, re'⟩ := p
        obtain ⟨hname, s, hvalue, hre⟩ := hp
        simp only at hname hvalue hre
        by_cases hbase : field = base
        · have hhead : key = field ++ "-pattern" := by rw [hname, hbase]
          rw [if_pos hhead, hbase, List.lookup_cons_self, hvalue]
          simp [hre]
        · have hhead : key ≠ field ++ "-pattern" := by
            rw [hname, ne_eq, String.append_left_inj]
            exact Ne.symm hbase
          have hneq : (field == base) = false := by simpa using hbase
          rw [if_neg hhead, List.lookup_cons, hneq]
          exact ih hrest
    · rw [List.filter_cons_of_neg (by simpa using hkey)] at h
      have hne : key ≠ field ++ "-pattern" := by
        rintro rfl
        exact hkey hfield
      rw [if_neg hne]
      exact ih h

/-! ### Entries -/

/-- The field of the pattern for submission types. -/
def subTypesPatternField : String := "sub-types-pattern"

/--
Whether an entry applies to a submission type, and to a form type if there is one: the type is
among the leaves of its submission types or matches the pattern for them, and the form is among the
leaves of its form types unless there are none.
-/
structure EntryApplies (classes : Members) (entry : Members) (subType : String)
    (formType : Option String) : Prop where
  subType : (∃ leaves, FieldLeaves classes entry subTypesField subTypeField leaves ∧
      LeavesSelect leaves subType) ∨
    ∃ pattern re, entry.get? subTypesPatternField = some (.str pattern) ∧
      Regex.ofPattern? pattern = some re ∧ re.isMatch subType
  formType : ∃ leaves, FieldLeaves classes entry formTypesField formTypeField leaves ∧
    (leaves = [] ∨ ∃ form, formType = some form ∧ LeavesSelect leaves form)

lemma Yielded.pattern?_eq_some_iff {r : Rule} (h : Yielded table entry r) {re : Regex} :
    r.pattern? subTypesField = some re ↔
      ∃ pattern, entry.get? subTypesPatternField = some (.str pattern) ∧
        Regex.ofPattern? pattern = some re :=
  lookup_of_resolvesPattern rfl h.resolves.patterns

/-- A rule applies to a submission exactly if its entry does. -/
lemma Yielded.appliesTo_iff {r : Rule} (h : Yielded table entry r) {subType : String}
    {formType : Option String} :
    r.appliesTo subType formType ↔ EntryApplies table entry subType formType := by
  obtain ⟨subLeaves, hsub, hsubTypes⟩ := fieldLeaves_of_checkTokens h.subTypes
  obtain ⟨formLeaves, hform, hformTypes⟩ := fieldLeaves_of_checkTokens h.formTypes
  have hselects : r.subTypes.selects subType ↔
      ∃ leaves, FieldLeaves table entry subTypesField subTypeField leaves ∧
        LeavesSelect leaves subType := by
    rw [hsub.exists_and_iff, hsubTypes, Selection.selects_ofTokens]
  have hpattern : (r.pattern? subTypesField).any (·.isMatch subType) ↔
      ∃ pattern re, entry.get? subTypesPatternField = some (.str pattern) ∧
        Regex.ofPattern? pattern = some re ∧ re.isMatch subType := by
    rw [Option.any_eq_true, exists_comm]
    simp only [h.pattern?_eq_some_iff, ← exists_and_right, and_assoc]
  have hforms : (r.formTypes.isEmpty || formType.any r.formTypes.selects) ↔
      ∃ leaves, FieldLeaves table entry formTypesField formTypeField leaves ∧
        (leaves = [] ∨ ∃ form, formType = some form ∧ LeavesSelect leaves form) := by
    rw [hform.exists_and_iff, hformTypes, Bool.or_eq_true, Selection.isEmpty_ofTokens,
      Option.any_eq_true]
    simp only [Selection.selects_ofTokens]
  rw [appliesTo, Bool.and_eq_true, Bool.or_eq_true, hselects, hpattern, hforms]
  constructor
  · rintro ⟨hsubType, hformType⟩
    exact ⟨hsubType, hformType⟩
  · rintro ⟨hsubType, hformType⟩
    exact ⟨hsubType, hformType⟩

/-- An entry that neither lists submission types nor has a pattern for them applies to nothing. -/
lemma not_entryApplies {subType : String} {formType : Option String}
    (hplural : entry.hasKey subTypesField = false) (hsingular : entry.hasKey subTypeField = false)
    (hpattern : entry.hasKey subTypesPatternField = false) :
    ¬ EntryApplies table entry subType formType := by
  rw [hasKey_eq_false_iff] at hplural hsingular hpattern
  rintro ⟨⟨leaves, hleaves, hselect⟩ | ⟨pattern, re, hvalue, -, -⟩, -⟩
  · rw [FieldLeaves, hplural, hsingular] at hleaves
    subst hleaves
    simp [LeavesSelect] at hselect
  · rw [hpattern] at hvalue
    cases hvalue

end Rule

/-! ### Specifications -/

namespace RuleSpec

variable {spec : RuleSpec} {ctx : RunScope}

/-- Without errors, the checks that a rule comes from have found no fault. -/
lemma yielded_of_no_errors (hclean : (spec.compile ctx).hasNoErrors) {r : Rule}
    (hr : r ∈ (spec.compile ctx).rulebook.rules) :
    ∃ entry, spec.entries[r.position]? = some (.obj entry) ∧
      Rule.Yielded spec.subTypeClasses entry r := by
  obtain ⟨entry, hentry, hcomment, hrule⟩ := exists_members_of_mem_rules hr
  have hmem : (.obj entry, r.position) ∈ spec.entries.zipIdx :=
    List.mem_zipIdx_iff_getElem?.2 hentry
  have hfaults := faults_of_errors (List.isEmpty_iff.1 hclean) hmem
  rw [← faults_eq spec ctx r.position, Rule.check, hcomment] at hfaults
  exact ⟨entry, hentry, Rule.yielded_of_checkMembers ⟨hrule, hfaults⟩⟩

/-- Without errors, a rule applies to a submission exactly if the entry at its position does. -/
lemma appliesTo_iff_of_no_errors (hclean : (spec.compile ctx).hasNoErrors) {r : Rule}
    (hr : r ∈ (spec.compile ctx).rulebook.rules) {entry : Members}
    (hentry : spec.entries[r.position]? = some (.obj entry)) {subType : String}
    {formType : Option String} :
    r.appliesTo subType formType ↔
      Rule.EntryApplies spec.subTypeClasses entry subType formType := by
  obtain ⟨entry', hentry', hyielded⟩ := yielded_of_no_errors hclean hr
  rw [hentry] at hentry'
  cases hentry'
  exact hyielded.appliesTo_iff

/--
Without errors, the rules that apply to a submission are those whose entries apply to it, each once
and in the order of the specification.
-/
theorem mem_applicable_iff (hclean : (spec.compile ctx).hasNoErrors) (subType : String)
    (formType : Option String) :
    (((spec.compile ctx).rulebook.applicable subType formType).map (·.position)).Pairwise (· < ·) ∧
      (∀ r, r ∈ (spec.compile ctx).rulebook.applicable subType formType ↔
        r ∈ (spec.compile ctx).rulebook.rules ∧
          ∃ entry, spec.entries[r.position]? = some (.obj entry) ∧
            Rule.EntryApplies spec.subTypeClasses entry subType formType) ∧
      ∀ r ∈ (spec.compile ctx).rulebook.rules, ∀ entry : Members,
        spec.entries[r.position]? = some (.obj entry) →
          entry.hasKey Rule.subTypesField = false → entry.hasKey Rule.subTypeField = false →
          entry.hasKey Rule.subTypesPatternField = false →
            r ∉ (spec.compile ctx).rulebook.applicable subType formType := by
  refine ⟨?_, fun r => ?_, ?_⟩
  · have hsub : ((spec.compile ctx).rulebook.applicable subType formType).Sublist
        (spec.compile ctx).rulebook.rules := List.filter_sublist
    exact (positions_increasing spec ctx).sublist (hsub.map _)
  · rw [Rulebook.applicable, List.mem_filter]
    refine and_congr_right fun hr => ?_
    constructor
    · intro happly
      obtain ⟨entry, hentry, -⟩ := yielded_of_no_errors hclean hr
      exact ⟨entry, hentry, (appliesTo_iff_of_no_errors hclean hr hentry).1 happly⟩
    · rintro ⟨entry, hentry, happly⟩
      exact (appliesTo_iff_of_no_errors hclean hr hentry).2 happly
  · intro r hr entry hentry hplural hsingular hpattern hmem
    have happly : r.appliesTo subType formType := (List.mem_filter.1 hmem).2
    rw [appliesTo_iff_of_no_errors hclean hr hentry] at happly
    exact Rule.not_entryApplies hplural hsingular hpattern happly

/-- The submission types of the entry with a group and a form, with the group expanded. -/
lemma fieldLeaves_formsEntry :
    Rule.FieldLeaves forms formsEntry Rule.subTypesField Rule.subTypeField
      ["10-K", "20-F", "8-K"] := by
  refine ⟨["@annual", "8-K"], rfl, ?_⟩
  have hannual : Unfolds forms ["10-K", "20-F"] ["10-K", "20-F"] :=
    .leaf rfl (.leaf rfl .nil)
  exact .group rfl rfl hannual (.leaf rfl .nil)

lemma entryApplies_formsEntry_iff {subType : String} :
    Rule.EntryApplies forms formsEntry subType none ↔
      LeavesSelect ["10-K", "20-F", "8-K"] subType := by
  constructor
  · rintro ⟨⟨leaves, hleaves, hselect⟩ | ⟨pattern, re, hvalue, -, -⟩, -⟩
    · rwa [fieldLeaves_formsEntry.unique hleaves]
    · cases hvalue
  · intro hselect
    exact ⟨.inl ⟨_, fieldLeaves_formsEntry, hselect⟩, [], rfl, .inl rfl⟩

lemma hasNoErrors_formsSpec : (formsSpec.compile openScope).hasNoErrors := by
  rw [Compilation.hasNoErrors, errors_compile, List.isEmpty_iff, List.append_eq_nil_iff]
  refine ⟨List.flatMap_eq_nil_iff.2 fun e he => ?_, rfl⟩
  cases List.mem_singleton.1 he
  exact List.map_eq_nil_iff.2 faults_formsEntry

lemma exists_mem_rules_formsSpec :
    ∃ r ∈ (formsSpec.compile openScope).rulebook.rules,
      formsSpec.entries[r.position]? = some (.obj formsEntry) := by
  have hrule : (formsSpec.rule? openScope 0 (.obj formsEntry)).isSome :=
    isSome_rule? rfl rfl rfl faults_formsEntry
  obtain ⟨r, hr⟩ := Option.isSome_iff_exists.1 hrule
  refine ⟨r, ?_, ?_⟩
  · rw [rules_compile]
    exact List.mem_flatMap.2 ⟨_, List.mem_singleton.2 rfl, Option.mem_toList.2 hr⟩
  · rw [position_of_rule? formsSpec openScope hr]
    rfl

theorem mem_applicable_iff_forms :
    (formsSpec.compile openScope).hasNoErrors ∧
      ∃ r ∈ (formsSpec.compile openScope).rulebook.rules,
        r ∈ (formsSpec.compile openScope).rulebook.applicable "20-F" none ∧
          r ∉ (formsSpec.compile openScope).rulebook.applicable "10-Q" none := by
  obtain ⟨r, hmem, hentry⟩ := exists_mem_rules_formsSpec
  obtain ⟨-, happlicable, -⟩ := mem_applicable_iff hasNoErrors_formsSpec "20-F" none
  obtain ⟨-, happlicable', -⟩ := mem_applicable_iff hasNoErrors_formsSpec "10-Q" none
  refine ⟨hasNoErrors_formsSpec, r, hmem, ?_, ?_⟩
  · have happlies : Rule.EntryApplies forms formsEntry "20-F" none :=
      entryApplies_formsEntry_iff.2 (by simp [LeavesSelect])
    exact (happlicable r).2 ⟨hmem, formsEntry, hentry, happlies⟩
  · intro hr
    obtain ⟨-, entry, hentry', happlies⟩ := (happlicable' r).1 hr
    rw [hentry] at hentry'
    cases hentry'
    have hselect := entryApplies_formsEntry_iff.1 happlies
    simp [LeavesSelect, wildcard, allToken] at hselect

end RuleSpec

end Disclosure
