import Mathlib.Data.Set.Lattice
import Disclosure.Proofs.Rule.Steady

/-!
# What checks report

A check reports faults of the fields that it reads: a field is missing or malformed, or groups that
it refers to cannot be expanded (`RuleFault.Concerns`). There is one lemma for each check of a
field, which says what fields these are; the checks that look up a name in a table are no such
checks.
-/

namespace Disclosure

open Json (Members)

/-- Whether a fault is that one of some fields is missing or malformed, or has no expansion. -/
def RuleFault.Concerns (fields : Set String) : RuleFault → Prop
  | .missingField field => field ∈ fields
  | .invalidFormat field _ => field ∈ fields
  | .typeMismatch field _ => field ∈ fields
  | .unknownReference kind _ => kind = .group
  | .circularReference _ _ => True

namespace RuleFault

variable {fields fields' : Set String}

lemma Concerns.mono {f : RuleFault} (h : f.Concerns fields) (hsub : fields ⊆ fields') :
    f.Concerns fields' := by
  cases f with
  | missingField field => exact hsub h
  | invalidFormat field detail => exact hsub h
  | typeMismatch field expected => exact hsub h
  | unknownReference kind key => exact h
  | circularReference name cycle => trivial

lemma concerns_ofGroup {field : String} (hfield : field ∈ fields) (e : GroupError) :
    (ofGroup field e).Concerns fields := by
  cases e with
  | unknown name => rfl
  | circular name cycle => trivial
  | notASequence name => exact hfield
  | notALeaf value => exact hfield

end RuleFault

namespace Check

/-- Whether every fault that a check finds concerns one of some fields. -/
def ReportsOn {α : Type} (table : Members) (fields : Set String) (c : Check α) : Prop :=
  ∀ f ∈ c.faults table, f.Concerns fields

variable {α β : Type} {table : Members} {fields fields' : Set String}

lemma ReportsOn.mono {c : Check α} (h : c.ReportsOn table fields) (hsub : fields ⊆ fields') :
    c.ReportsOn table fields' := by
  intro f hf
  exact (h f hf).mono hsub

lemma reportsOn_pure (a : α) : (pure a : Check α).ReportsOn table fields := by
  intro f hf
  cases hf

lemma reportsOn_reportIf {b : Bool} {f : RuleFault} (h : f.Concerns fields) :
    (reportIf b f).ReportsOn table fields := by
  intro f' hf'
  rw [faults_reportIf] at hf'
  split_ifs at hf'
  · rwa [List.mem_singleton.1 hf']
  · cases hf'

lemma reportsOn_refuse {f : RuleFault} (h : f.Concerns fields) :
    (refuse f : Check (Option α)).ReportsOn table fields := by
  intro f' hf'
  rwa [List.mem_singleton.1 hf']

lemma ReportsOn.bind {c : Check α} {next : α → Check β} [Steady table c]
    [∀ a, Steady table (next a)] (hc : c.ReportsOn table fields)
    (hnext : ∀ a, (next a).ReportsOn table fields) : (c >>= next).ReportsOn table fields := by
  intro f hf
  rw [faults_bind, List.mem_append] at hf
  rcases hf with hf | hf
  · exact hc f hf
  · exact hnext _ f hf

lemma reportsOn_expansion {field : String} {fallback : α}
    {run : Resolver → Except GroupError α × Resolver} :
    (expansion field fallback run).ReportsOn table {field} := by
  intro f hf
  rw [faults, expansion_eq] at hf
  cases hrun : (run (.ofTable table)).1 with
  | ok a =>
    rw [hrun] at hf
    cases hf
  | error e =>
    rw [hrun] at hf
    rw [List.mem_singleton.1 hf]
    exact RuleFault.concerns_ofGroup (Set.mem_singleton field) e

lemma reportsOn_collect {check : α → Check (Option β)} [∀ a, Steady table (check a)]
    {fieldsOf : α → Set String} {as : List α}
    (h : ∀ a ∈ as, (check a).ReportsOn table (fieldsOf a)) :
    (collect check as).ReportsOn table (⋃ a ∈ as, fieldsOf a) := by
  intro f hf
  rw [faults_collect, List.mem_flatMap] at hf
  obtain ⟨a, ha, hf⟩ := hf
  exact (h a ha f hf).mono (Set.subset_biUnion_of_mem ha)

lemma reportsOn_forM {check : α → Check PUnit} [∀ a, Steady table (check a)]
    {fieldsOf : α → Set String} {as : List α}
    (h : ∀ a ∈ as, (check a).ReportsOn table (fieldsOf a)) :
    (as.forM check).ReportsOn table (⋃ a ∈ as, fieldsOf a) := by
  intro f hf
  rw [faults_forM, List.mem_flatMap] at hf
  obtain ⟨a, ha, hf⟩ := hf
  exact (h a ha f hf).mono (Set.subset_biUnion_of_mem ha)

end Check

namespace Rule

open Check

variable {table : Members} {field : String} {entry : Members}

/-! ### Scalars and lists -/

lemma reportsOn_checkString : (checkString entry field).ReportsOn table {field} := by
  rw [checkString]
  split
  · exact reportsOn_pure _
  · exact reportsOn_pure _
  · exact reportsOn_pure _
  · exact reportsOn_refuse rfl

lemma reportsOn_checkPattern {raw : Json} : (checkPattern field raw).ReportsOn table {field} := by
  unfold checkPattern
  split
  · split
    · exact reportsOn_pure _
    · exact reportsOn_refuse rfl
  · exact reportsOn_refuse rfl

lemma reportsOn_checkFieldValue {raw : Json} :
    (checkFieldValue field raw).ReportsOn table {field} := by
  rw [checkFieldValue]
  split_ifs
  · exact reportsOn_expansion.bind fun _ => reportsOn_pure _
  · exact reportsOn_pure _

lemma reportsOn_checkTokens {raw : Option Json} :
    (checkTokens field raw).ReportsOn table {field} := by
  unfold checkTokens
  split
  · exact reportsOn_pure _
  · exact reportsOn_expansion

/-! ### Requirements, kind and source -/

lemma reportsOn_checkPresent : (checkPresent entry field).ReportsOn table {field} :=
  reportsOn_reportIf rfl

lemma reportsOn_checkSeverity {exhibitSpecific : Bool} :
    (checkSeverity exhibitSpecific entry).ReportsOn table {"message*"} :=
  reportsOn_reportIf rfl

lemma reportsOn_checkReferencesPresent {code : Option String} :
    (checkReferencesPresent entry code).ReportsOn table {referencesField} :=
  reportsOn_reportIf rfl

lemma reportsOn_checkCitation : (checkCitation entry).ReportsOn table {sectionField} := by
  rw [checkCitation]
  split
  · split_ifs
    · exact reportsOn_pure _
    · exact reportsOn_refuse rfl
  · exact reportsOn_refuse rfl
  · exact reportsOn_pure _

lemma reportsOn_checkSource {ctx : RunScope} {storageOnly : Bool} :
    (checkSource ctx entry storageOnly).ReportsOn table {sourceField} := by
  rw [checkSource]
  split
  · split_ifs
    · exact reportsOn_pure _
    · refine ReportsOn.bind (reportsOn_reportIf ?_) fun _ => reportsOn_pure _
      rfl
  · split
    · exact reportsOn_pure _
    · exact reportsOn_refuse rfl
  · exact reportsOn_refuse rfl

lemma reportsOn_checkKind {ctx : RunScope} {code : Option String}
    {citation : Option Requirement} :
    (checkKind ctx entry code citation).ReportsOn table {storageField} := by
  unfold checkKind
  split
  · exact reportsOn_pure _
  · exact reportsOn_refuse rfl
  · split
    · exact reportsOn_pure _
    · split_ifs <;> exact reportsOn_pure _

/-! ### Constraints -/

lemma reportsOn_checkConstraint {raw : Json} {union : Bool} :
    (checkConstraint field raw union).ReportsOn table {field} := by
  rw [checkConstraint]
  split_ifs
  · exact reportsOn_expansion.bind fun _ => reportsOn_pure _
  · split
    · exact reportsOn_pure _
    · exact reportsOn_refuse rfl

lemma reportsOn_checkValue {code : Option String} :
    (checkValue entry code).ReportsOn table {field | field ∈ ValueConstraint.fields} := by
  have hlist : (RuleFault.typeMismatch ValueConstraint.valueField "a list").Concerns
      {field | field ∈ ValueConstraint.fields} := by
    simp [RuleFault.Concerns, ValueConstraint.fields]
  rw [checkValue]
  cases hselect : ValueConstraint.select entry with
  | none => exact (reportsOn_reportIf hlist).bind fun _ => reportsOn_pure _
  | some m =>
    obtain ⟨field, hfield, hm⟩ := List.exists_of_findSome?_eq_some hselect
    obtain ⟨raw, -, rfl⟩ := Option.map_eq_some_iff.1 hm
    have hsub : {field} ⊆ {field | field ∈ ValueConstraint.fields} :=
      Set.singleton_subset_iff.2 hfield
    exact (reportsOn_reportIf hlist).bind fun _ => reportsOn_checkConstraint.mono hsub

lemma reportsOn_checkLang : (checkLang entry).ReportsOn table {langField} := by
  rw [checkLang]
  split
  · exact reportsOn_pure _
  · exact reportsOn_checkPattern

/-! ### Concepts and types -/

lemma reportsOn_checkNames {ctx : RunScope} :
    (checkNames ctx entry).ReportsOn table {namesField} := by
  rw [checkNames]
  split
  · exact reportsOn_pure _
  · split
    · exact reportsOn_pure _
    · refine ReportsOn.bind (reportsOn_refuse (α := Unit) ?_) fun _ => reportsOn_pure _
      rfl

lemma reportsOn_checkReferences :
    (checkReferences entry).ReportsOn table {referencesField, referenceValueField} := by
  have hnames : (RuleFault.typeMismatch referencesField "a list of concept names").Concerns
      {referencesField, referenceValueField} := .inl rfl
  rw [checkReferences]
  split
  · exact reportsOn_pure _
  · cases entry.get? referenceValueField with
    | none => exact (reportsOn_reportIf hnames).bind fun _ => reportsOn_pure _
    | some value =>
      have hvalue : (checkFieldValue referenceValueField value).ReportsOn table
          {referencesField, referenceValueField} :=
        reportsOn_checkFieldValue.mono (Set.subset_insert _ _)
      exact (reportsOn_reportIf hnames).bind fun _ => hvalue.bind fun _ => reportsOn_pure _

lemma reportsOn_checkSubTypes : (checkSubTypes entry).ReportsOn table {subTypesField} :=
  reportsOn_checkTokens

lemma reportsOn_checkFormTypes : (checkFormTypes entry).ReportsOn table {formTypesField} :=
  reportsOn_checkTokens

lemma reportsOn_checkStoredValues :
    (checkStoredValues entry).ReportsOn table {storedValuesField} := by
  rw [checkStoredValues]
  split
  · exact reportsOn_pure _
  · exact reportsOn_checkFieldValue.bind fun _ => reportsOn_pure _

/-! ### Fields known by their endings -/

lemma reportsOn_checkPatternFor {m : String × Json} :
    (checkPatternFor m).ReportsOn table {m.1} := by
  rw [checkPatternFor]
  split_ifs
  · exact reportsOn_pure _
  · split
    · exact reportsOn_pure _
    · exact reportsOn_checkPattern.bind fun _ => reportsOn_pure _

lemma reportsOn_checkCondition {c : String × Json} :
    (checkCondition field c).ReportsOn table {field, field ++ " " ++ c.1} := by
  rw [checkCondition]
  split
  · split_ifs
    · refine ReportsOn.bind (reportsOn_expansion.mono ?_) fun _ => reportsOn_pure _
      exact Set.singleton_subset_iff.2 (Set.mem_insert _ _)
    · exact reportsOn_pure _
  · exact reportsOn_refuse (.inr rfl)

/-- The fields of a clause: the field itself, and its conditions. -/
def clauseFields (field : String) : Set String :=
  insert field (Set.range fun condition => field ++ " " ++ condition)

lemma reportsOn_checkWhere {m : String × Json} :
    (checkWhere m).ReportsOn table (clauseFields m.1) := by
  rw [checkWhere]
  split_ifs
  · split
    · next conditions _ =>
      have hconditions : (Check.collect (checkCondition m.1) conditions).ReportsOn table
          (clauseFields m.1) := by
        refine (reportsOn_collect fun c _ => reportsOn_checkCondition).mono ?_
        refine Set.iUnion₂_subset fun c _ => Set.insert_subset (Set.mem_insert _ _) ?_
        exact Set.singleton_subset_iff.2 (.inr ⟨c.1, rfl⟩)
      exact hconditions.bind fun _ => reportsOn_pure _
    · exact reportsOn_refuse (Set.mem_insert _ _)
  · exact reportsOn_pure _

lemma reportsOn_checkValueMap {classes : Members} {m : String × Json} :
    (checkValueMap classes m).ReportsOn table {m.1} := by
  rw [checkValueMap]
  split_ifs
  · split
    · exact reportsOn_pure _
    · split
      · exact reportsOn_refuse rfl
      · split
        · exact reportsOn_pure _
        · exact reportsOn_refuse rfl
        · exact reportsOn_refuse rfl
    · exact reportsOn_refuse rfl
  · exact reportsOn_pure _

end Rule

end Disclosure
