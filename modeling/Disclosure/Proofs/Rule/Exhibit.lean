import Disclosure.Proofs.Rule.Assembly
import Disclosure.Proofs.Rule.Declared

/-!
# Runs for exhibits

A run for one type of exhibit asks less of an entry: it needs no requirement, no source and, with a
severity, no message. Such a run only relaxes (`RuleSpec.compile_forExhibit`): it reports the same
errors less those for the fields that are waived, and has all rules of the other run. Standard rules
become rules for exhibits.
-/

namespace Disclosure

open Json (Members)

/-- The run for one type of exhibit, or the run for all filings. -/
def RunScope.forExhibit (ctx : RunScope) (exhibitSpecific : Bool) : RunScope :=
  { ctx with exhibitSpecific }

/-- The fields that are required of no entry for exhibits. -/
def waivedFields : List String :=
  [Rule.manualField, Rule.sourceField, "message*"]

/-- Whether a fault is that a field is missing which entries for exhibits need not have. -/
def RuleFault.isWaived : RuleFault → Bool
  | .missingField field => field ∈ waivedFields
  | _ => false

/-- The shape that a rule has in a run for exhibits. -/
def RuleShape.forExhibit : RuleShape → RuleShape
  | .standard code _ => .exhibit code
  | shape => shape

/-- The rule in a run for exhibits. -/
def Rule.forExhibit (r : Rule) : Rule :=
  { r with kind := r.kind.forExhibit }

/-! ### Faults that are not waived -/

namespace Check

variable {α β : Type} {table : Members}

/-- Whether none of the faults of a check is waived. -/
def Unwaived (table : Members) (c : Check α) : Prop :=
  ∀ f ∈ c.faults table, f.isWaived = false

lemma unwaived_pure (a : α) : (pure a : Check α).Unwaived table := by
  intro f hf
  cases hf

/-- Faults are not waived if they concern other fields than those that are. -/
lemma ReportsOn.unwaived {c : Check α} {fields : Set String} (h : c.ReportsOn table fields)
    (hfields : ∀ field ∈ waivedFields, field ∉ fields) : c.Unwaived table := by
  intro f hf
  cases f with
  | missingField field =>
    have hfield : field ∈ fields := h _ hf
    rw [RuleFault.isWaived, decide_eq_false_iff_not]
    exact fun hwaived => hfields field hwaived hfield
  | _ => rfl

lemma Unwaived.filter_faults {c : Check α} (h : c.Unwaived table) :
    (c.faults table).filter (!·.isWaived) = c.faults table := by
  rw [List.filter_eq_self]
  intro f hf
  rw [h f hf]
  rfl

lemma Unwaived.filter_flatMap {check : α → Check β} (h : ∀ a, (check a).Unwaived table)
    (as : List α) :
    (as.flatMap fun a => (check a).faults table).filter (!·.isWaived) =
      as.flatMap fun a => (check a).faults table := by
  rw [List.filter_flatMap]
  exact List.flatMap_congr fun a _ => (h a).filter_faults

end Check

/-- Elements give more if what they gave they still give. -/
lemma sublist_filterMap {α β : Type} {f g : α → Option β}
    (h : ∀ a b, f a = some b → g a = some b) (as : List α) :
    (as.filterMap f).Sublist (as.filterMap g) := by
  induction as with
  | nil => exact .slnil
  | cons a as ih =>
    cases hf : f a with
    | none =>
      rw [List.filterMap_cons_none hf, List.filterMap_cons]
      cases g a with
      | none => exact ih
      | some b => exact ih.cons b
    | some b =>
      rw [List.filterMap_cons_some hf, List.filterMap_cons_some (h a b hf)]
      exact ih.cons_cons b

namespace Rule

open Check

variable {table : Members} {m : String × Json}

lemma unwaived_checkKnown {kind : ReferenceKind} {names : Members} {name : Option String} :
    (checkKnown kind names name).Unwaived table := by
  unfold checkKnown
  cases name with
  | none => exact unwaived_pure _
  | some name =>
    intro f hf
    rw [faults_reportIf] at hf
    split_ifs at hf
    · rw [List.mem_singleton.1 hf]
      rfl
    · cases hf

lemma not_mem_endingFields_of_waived : ∀ field ∈ waivedFields, field ∉ endingFields := by
  unfold endingFields
  decide

lemma unwaived_checkPatternFor : (checkPatternFor m).Unwaived table :=
  reportsOn_endingFields_checkPatternFor.unwaived not_mem_endingFields_of_waived

lemma unwaived_checkWhere : (checkWhere m).Unwaived table :=
  reportsOn_endingFields_checkWhere.unwaived not_mem_endingFields_of_waived

lemma unwaived_checkValueMap {classes : Members} : (checkValueMap classes m).Unwaived table :=
  reportsOn_endingFields_checkValueMap.unwaived not_mem_endingFields_of_waived

/-! ### The checks that ask less -/

variable (ctx : RunScope) (entry : Members)

lemma filter_faults_checkPresent (field : String) :
    ((checkPresent entry field).faults table).filter (!·.isWaived) =
      if field ∈ waivedFields then [] else (checkPresent entry field).faults table := by
  rw [checkPresent, faults_reportIf]
  cases entry.hasKey field with
  | true => simp
  | false => by_cases hfield : field ∈ waivedFields <;> simp [RuleFault.isWaived, hfield]

lemma faults_required_forExhibit :
    ((requiredFields true entry).flatMap fun field => (checkPresent entry field).faults table) =
      ((requiredFields false entry).flatMap fun field =>
        (checkPresent entry field).faults table).filter (!·.isWaived) := by
  have hnames : namesField ∉ waivedFields := by decide
  have hvalidation : validationField ∉ waivedFields := by decide
  have hmanual : manualField ∈ waivedFields := by decide
  have hsource : sourceField ∈ waivedFields := by decide
  rw [List.filter_flatMap]
  simp only [filter_faults_checkPresent, requiredFields]
  cases entry.hasKey storageField with
  | true => simp [hnames]
  | false =>
    cases hsection : entry.hasKey sectionField with
    | true =>
      -- the section stands for the requirement, and is not missing
      simp [hnames, hvalidation, hsource, checkPresent, hsection]
    | false => simp [hnames, hvalidation, hmanual, hsource]

lemma faults_checkSeverity_forExhibit :
    (checkSeverity true entry).faults table =
      ((checkSeverity false entry).faults table).filter (!·.isWaived) := by
  have hwaived : [RuleFault.missingField "message*"].filter (!·.isWaived) = [] := rfl
  rw [checkSeverity, checkSeverity, faults_reportIf, faults_reportIf, if_neg (by simp)]
  split_ifs
  · rw [hwaived]
  · rfl

lemma faults_checkSource_forExhibit (storageOnly : Bool) :
    (checkSource (ctx.forExhibit true) entry storageOnly).faults table =
      ((checkSource (ctx.forExhibit false) entry storageOnly).faults table).filter
        (!·.isWaived) := by
  rw [checkSource, checkSource]
  cases entry.get? sourceField with
  | none =>
    cases storageOnly with
    | true => rfl
    | false => cases entry.hasKey storageField <;> rfl
  | some v =>
    cases v with
    | str s =>
      simp only
      cases SourceFilter.ofText? s <;> rfl
    | _ => rfl

lemma faults_checkKind_forExhibit (code : Option String) (citation : Option Requirement) :
    (checkKind (ctx.forExhibit true) entry code citation).faults table =
      (checkKind (ctx.forExhibit false) entry code citation).faults table := by
  unfold checkKind
  cases entry.get? storageField with
  | none =>
    cases code with
    | none => rfl
    | some code => rfl
  | some v => cases v <;> rfl

/-! ### Entries -/

variable (spec : RuleSpec) (position : Nat)

lemma unwaived_of_reportsOn_singleton {α : Type} {c : Check α} {field : String}
    (h : c.ReportsOn table {field}) (hfield : field ∉ waivedFields) : c.Unwaived table := by
  refine h.unwaived fun waived hwaived hmem => hfield ?_
  rwa [← Set.mem_singleton_iff.1 hmem]

lemma unwaived_checkValue {code : Option String} : (checkValue entry code).Unwaived table := by
  refine reportsOn_checkValue.unwaived ?_
  change ∀ field ∈ waivedFields, field ∉ ValueConstraint.fields
  decide

lemma unwaived_checkReferences : (checkReferences entry).Unwaived table := by
  refine reportsOn_checkReferences.unwaived fun field hfield hmem => ?_
  rcases hmem with rfl | rfl
  · exact absurd hfield (by decide)
  · exact absurd hfield (by decide)

lemma leadingFaults_forExhibit :
    leadingFaults (ctx.forExhibit true) spec entry =
      (leadingFaults (ctx.forExhibit false) spec entry).filter (!·.isWaived) := by
  have hkept : ∀ {α : Type} {c : Check α} {field : String},
      c.ReportsOn spec.subTypeClasses {field} → field ∉ waivedFields →
      (c.faults spec.subTypeClasses).filter (!·.isWaived) = c.faults spec.subTypeClasses :=
    fun h hfield => (unwaived_of_reportsOn_singleton h hfield).filter_faults
  have hstring : ∀ field, field ∉ waivedFields →
      ((checkString entry field).faults spec.subTypeClasses).filter (!·.isWaived) =
        (checkString entry field).faults spec.subTypeClasses :=
    fun field => hkept reportsOn_checkString
  have hnames : checkNames (ctx.forExhibit true) entry = checkNames (ctx.forExhibit false) entry :=
    rfl
  have htrue : (ctx.forExhibit true).exhibitSpecific = true := rfl
  have hfalse : (ctx.forExhibit false).exhibitSpecific = false := rfl
  unfold leadingFaults
  simp only [List.filter_append, htrue, hfalse, hnames, faults_required_forExhibit,
    faults_checkSeverity_forExhibit, faults_checkSource_forExhibit,
    unwaived_checkKnown.filter_faults, (unwaived_checkValue entry).filter_faults,
    (unwaived_checkReferences entry).filter_faults, hstring validationField (by decide),
    hstring axisField (by decide), hstring messageField (by decide),
    hkept reportsOn_checkCitation (by decide), hkept reportsOn_checkReferencesPresent (by decide),
    hkept reportsOn_checkLang (by decide), hkept reportsOn_checkNames (by decide),
    hkept reportsOn_checkSubTypes (by decide), hkept reportsOn_checkFormTypes (by decide)]

lemma faults_checkMembers_forExhibit :
    (checkMembers (ctx.forExhibit true) spec position entry).faults spec.subTypeClasses =
      ((checkMembers (ctx.forExhibit false) spec position entry).faults
        spec.subTypeClasses).filter (!·.isWaived) := by
  have hstored : (checkStoredValues entry).Unwaived spec.subTypeClasses :=
    unwaived_of_reportsOn_singleton reportsOn_checkStoredValues (by decide)
  have hkind : ∀ code citation, (checkKind (ctx.forExhibit false) entry code citation).Unwaived
      spec.subTypeClasses :=
    fun _ _ => unwaived_of_reportsOn_singleton reportsOn_checkKind (by decide)
  simp only [faults_checkMembers, List.filter_append, leadingFaults_forExhibit,
    faults_checkKind_forExhibit, hstored.filter_faults, (hkind _ _).filter_faults,
    Check.Unwaived.filter_flatMap fun _ => unwaived_checkPatternFor,
    Check.Unwaived.filter_flatMap fun _ => unwaived_checkWhere,
    Check.Unwaived.filter_flatMap fun _ => unwaived_checkValueMap]

variable {ctx entry}

/-- The kind of an entry in a run for exhibits, if it has one in the other run. -/
lemma kind?_forExhibit {kind : RuleShape}
    (h : kind? table (ctx.forExhibit false) entry = some kind) :
    kind? table (ctx.forExhibit true) entry = some kind.forExhibit := by
  unfold kind? checkKind at h ⊢
  cases hv : entry.get? storageField with
  | none =>
    rw [hv] at h
    cases hcode : code? table entry with
    | none =>
      rw [hcode] at h
      cases h
    | some code =>
      rw [hcode] at h
      obtain ⟨requirement, -, rfl⟩ := Option.map_eq_some_iff.1 h
      rfl
  | some v =>
    rw [hv] at h
    cases v with
    | str name =>
      cases h
      rfl
    | _ => cases h

lemma source?_forExhibit {source : SourceFilter}
    (h : source? table (ctx.forExhibit false) entry = some source) :
    source? table (ctx.forExhibit true) entry = some source := by
  rw [source?, checkSource] at h ⊢
  cases hv : entry.get? sourceField with
  | none =>
    -- only a stored value without validation has a source then, and the same one in both runs
    rw [hv] at h
    cases hstorage : entry.hasKey storageField && (code? table entry).isNone with
    | true =>
      rw [hstorage] at h
      exact h
    | false =>
      rw [hstorage] at h
      cases entry.hasKey storageField <;> cases h
  | some v =>
    rw [hv] at h
    cases v with
    | str s => exact h
    | _ => cases h

end Rule

namespace RuleSpec

variable (spec : RuleSpec) (ctx : RunScope)

lemma faults_forExhibit (raw : Json) : spec.faults (ctx.forExhibit true) raw =
    (spec.faults (ctx.forExhibit false) raw).filter (!·.isWaived) := by
  cases raw with
  | obj entry =>
    rw [faults, faults, Rule.check, Rule.check]
    split_ifs
    · rfl
    · exact Rule.faults_checkMembers_forExhibit ctx entry spec 0
  | _ => rfl

variable {spec ctx}

lemma rule?_forExhibit {position : Nat} {raw : Json} {r : Rule}
    (h : spec.rule? (ctx.forExhibit false) position raw = some r) :
    spec.rule? (ctx.forExhibit true) position raw = some r.forExhibit := by
  cases raw with
  | obj entry =>
    rw [rule?, Rule.check] at h ⊢
    split_ifs at h ⊢
    · cases h
    · rw [Rule.answer_checkMembers] at h ⊢
      split at h
      · next kind source hkind hsource =>
        rw [Rule.kind?_forExhibit hkind, Rule.source?_forExhibit hsource]
        have hmode : (ctx.forExhibit true).mode = (ctx.forExhibit false).mode := rfl
        simp only [hmode]
        split_ifs at h ⊢
        cases h
        rfl
      · cases h
  | _ => cases h

/-! ### Specifications -/

variable (spec ctx)

lemma tableErrors_unwaived : spec.tableErrors.filter (!·.fault.isWaived) = spec.tableErrors := by
  rw [List.filter_eq_self]
  intro e he
  obtain ⟨location, m, key, -, -, rfl⟩ := mem_tableErrors_iff.1 he
  rfl

lemma errors_forExhibit : (spec.compile (ctx.forExhibit true)).errors =
    (spec.compile (ctx.forExhibit false)).errors.filter (!·.fault.isWaived) := by
  rw [errors_compile, errors_compile, List.filter_append, tableErrors_unwaived,
    List.filter_flatMap]
  congr 1
  refine List.flatMap_congr fun e _ => ?_
  rw [entryErrors, entryErrors, faults_forExhibit, List.filter_map]
  rfl

lemma rules_forExhibit :
    ((spec.compile (ctx.forExhibit false)).rulebook.rules.map (·.forExhibit)).Sublist
      (spec.compile (ctx.forExhibit true)).rulebook.rules := by
  rw [rules_compile_eq_filterMap, rules_compile_eq_filterMap, List.map_filterMap]
  refine sublist_filterMap (fun e r hr => ?_) _
  obtain ⟨r', hr', rfl⟩ := Option.map_eq_some_iff.1 hr
  exact rule?_forExhibit hr'

/--
A run for one type of exhibit only relaxes. It reports the same errors in the same order, less those
that a field is missing which is waived. It has the rules of the other run among its own, in order,
as rules for exhibits: what is stored is the same, and a standard rule keeps its code.
-/
theorem compile_forExhibit :
    (spec.compile (ctx.forExhibit true)).errors =
        (spec.compile (ctx.forExhibit false)).errors.filter (!·.fault.isWaived) ∧
      ((spec.compile (ctx.forExhibit false)).rulebook.rules.map (·.forExhibit)).Sublist
        (spec.compile (ctx.forExhibit true)).rulebook.rules :=
  ⟨errors_forExhibit spec ctx, rules_forExhibit spec ctx⟩

end RuleSpec

end Disclosure
