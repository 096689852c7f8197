import Disclosure.Proofs.Rule.Applicability
import Disclosure.Proofs.Rule.Assembly
import Disclosure.Proofs.Rule.Declared
import Disclosure.Proofs.Rule.Eligible

/-!
# Rules that compare concepts

Rules with some codes compare a fact with facts of other concepts, so their entries must list these
concepts. Whether any are listed is found by flattening the list, and so are the concepts
themselves. Both agree, and an entry of such a rule without concepts is always reported
(`RuleSpec.references_required`).
-/

namespace Disclosure

open Json (Members)

/-! ### Scalars of a value -/

namespace Json

mutual

/-- The scalars of a value from left to right, through any nesting of lists; `null` is none. -/
def scalars : Json → List String
  | .null => []
  | .bool b => [(bool b).scalarText]
  | .num n => [(num n).scalarText]
  | .str s => [s]
  | .arr items => itemsScalars items
  | .obj _ => []

/-- The scalars of values one after another. -/
def itemsScalars : List Json → List String
  | [] => []
  | v :: vs => v.scalars ++ itemsScalars vs

end

mutual

/-- The leaves of a value without objects are its scalars. -/
lemma leaves_of_not_holdsObject : ∀ v : Json, ¬ v.HoldsObject → v.leaves = ⟨v.scalars, none⟩
  | .null, _ => rfl
  | .bool b, _ => by cases b <;> rfl
  | .num n, _ => rfl
  | .str s, _ => rfl
  | .arr items, h => by
    rw [holdsObject_arr] at h
    rw [leaves, scalars]
    apply leaves_of_forall_not_holdsObject
    intro v hv hobject
    exact h ⟨v, hv, hobject⟩
  | .obj members, h => absurd (.obj members) h

lemma leaves_of_forall_not_holdsObject : ∀ items : List Json, (∀ v ∈ items, ¬ v.HoldsObject) →
    itemsLeaves items = ⟨itemsScalars items, none⟩
  | [], _ => rfl
  | v :: vs, h => by
    obtain ⟨hv, hvs⟩ := List.forall_mem_cons.1 h
    rw [itemsLeaves, leaves_of_not_holdsObject v hv, leaves_of_forall_not_holdsObject vs hvs]
    rfl

end

variable {v : Json}

lemma flatten_of_not_holdsObject (h : ¬ v.HoldsObject) : v.flatten = .ok v.scalars :=
  flatten_eq_ok_iff.2 (leaves_of_not_holdsObject v h)

lemma isSome_object_leaves_iff : v.leaves.object.isSome ↔ v.HoldsObject := by
  rw [Option.isSome_iff_ne_none, ne_eq, object_leaves_eq_none_iff, not_not]

lemma exists_flatten_error (h : v.HoldsObject) : ∃ e, v.flatten = .error e := by
  cases hv : v.flatten with
  | error e => exact ⟨e, rfl⟩
  | ok tokens => exact absurd h (exists_flatten_iff.1 ⟨tokens, hv⟩)

end Json

/-! ### Faults of one field -/

/-- Whether a fault is that a field is missing or malformed. -/
def RuleFault.isOn (field : String) : RuleFault → Bool
  | .missingField name => name = field
  | .invalidFormat name _ => name = field
  | .typeMismatch name _ => name = field
  | _ => false

namespace Check

variable {α β : Type} {table : Members} {fields : Set String} {field : String}

/-- A check that is about other fields reports nothing on a field. -/
lemma ReportsOn.filter_isOn {c : Check α} (h : c.ReportsOn table fields) (hfield : field ∉ fields) :
    (c.faults table).filter (·.isOn field) = [] := by
  rw [List.filter_eq_nil_iff]
  intro f hf hon
  have hconcerns : f.Concerns fields := h f hf
  cases f with
  | unknownReference kind key => cases hon
  | circularReference name cycle => cases hon
  | _ =>
    obtain rfl := of_decide_eq_true hon
    exact hfield hconcerns

lemma ReportsOn.filter_isOn_flatMap {check : α → Check β} {as : List α}
    (h : ∀ a, (check a).ReportsOn table fields) (hfield : field ∉ fields) :
    (as.flatMap fun a => (check a).faults table).filter (·.isOn field) = [] := by
  rw [List.filter_flatMap, List.flatMap_eq_nil_iff]
  intro a _
  exact (h a).filter_isOn hfield

end Check

namespace Rule

open Check

variable {table : Members} {entry : Members} {field : String}

lemma filter_isOn_checkKnown {kind : ReferenceKind} {names : Members} {name : Option String} :
    ((checkKnown kind names name).faults table).filter (·.isOn field) = [] := by
  unfold checkKnown
  cases name with
  | none => rfl
  | some name =>
    rw [faults_reportIf]
    split_ifs <;> rfl

/-- Whether an object stands among the references of an entry. -/
def hasMalformedReferences (entry : Members) : Bool :=
  (entry.get? referencesField).any (·.leaves.object.isSome)

/-- The fault that references are malformed. -/
def malformedReferences : RuleFault :=
  .typeMismatch referencesField "a list of concept names"

lemma filter_isOn_checkReferences :
    ((checkReferences entry).faults table).filter (·.isOn referencesField) =
      if hasMalformedReferences entry then [malformedReferences] else [] := by
  have hvalue : ∀ value : Json,
      ((checkFieldValue referenceValueField value).faults table).filter
        (·.isOn referencesField) = [] :=
    fun value => reportsOn_checkFieldValue.filter_isOn (by decide)
  rw [checkReferences, hasMalformedReferences]
  cases entry.get? referencesField with
  | none => rfl
  | some raw =>
    cases entry.get? referenceValueField with
    | none =>
      simp only [faults_bind, faults_reportIf, faults_pure, List.append_nil, Option.any_some]
      split_ifs <;> rfl
    | some value =>
      simp only [faults_bind, faults_reportIf, faults_pure, List.append_nil, List.filter_append,
        hvalue, Option.any_some]
      split_ifs <;> rfl

lemma filter_isOn_required {exhibitSpecific : Bool} :
    ((requiredFields exhibitSpecific entry).flatMap fun field =>
        (checkPresent entry field).faults table).filter (·.isOn referencesField) = [] := by
  have hrequired : ∀ field ∈ requiredFields exhibitSpecific entry, referencesField ≠ field := by
    unfold requiredFields
    split_ifs <;> decide
  rw [List.filter_flatMap, List.flatMap_eq_nil_iff]
  intro field hfield
  exact reportsOn_checkPresent.filter_isOn (hrequired field hfield)

lemma filter_isOn_checkReferencesPresent {code : Option String} :
    ((checkReferencesPresent entry code).faults table).filter (·.isOn referencesField) =
      (checkReferencesPresent entry code).faults table := by
  rw [checkReferencesPresent, faults_reportIf]
  split_ifs <;> rfl

/-- The faults of references that two checks in front find. -/
lemma filter_isOn_leadingFaults (ctx : RunScope) (spec : RuleSpec) :
    (leadingFaults ctx spec entry).filter (·.isOn referencesField) =
      (checkReferencesPresent entry (code? spec.subTypeClasses entry)).faults
          spec.subTypeClasses ++
        if hasMalformedReferences entry then [malformedReferences] else [] := by
  have hsilent : ∀ {α : Type} {c : Check α} {field : String},
      c.ReportsOn spec.subTypeClasses {field} → referencesField ≠ field →
      (c.faults spec.subTypeClasses).filter (·.isOn referencesField) = [] :=
    fun h hne => h.filter_isOn hne
  have hstring : ∀ field, referencesField ≠ field →
      ((checkString entry field).faults spec.subTypeClasses).filter (·.isOn referencesField) = [] :=
    fun field => hsilent reportsOn_checkString
  have hvalue : referencesField ∉ {field | field ∈ ValueConstraint.fields} := by
    change referencesField ∉ ValueConstraint.fields
    decide
  unfold leadingFaults
  simp only [List.filter_append, filter_isOn_required, filter_isOn_checkReferencesPresent,
    filter_isOn_checkKnown, filter_isOn_checkReferences, reportsOn_checkValue.filter_isOn hvalue,
    hstring validationField (by decide), hstring axisField (by decide),
    hstring messageField (by decide), hsilent reportsOn_checkCitation (by decide),
    hsilent reportsOn_checkSeverity (by decide), hsilent reportsOn_checkLang (by decide),
    hsilent reportsOn_checkSource (by decide), hsilent reportsOn_checkNames (by decide),
    hsilent reportsOn_checkSubTypes (by decide), hsilent reportsOn_checkFormTypes (by decide),
    List.nil_append, List.append_nil]

/-- On a field without an ending only the checks in front report, unless it names what is stored. -/
lemma filter_isOn_checkMembers_of_not_mem (ctx : RunScope) (spec : RuleSpec) (position : Nat)
    (hending : field ∉ endingFields) (hstored : field ≠ storedValuesField)
    (hkind : field ≠ storageField) :
    ((checkMembers ctx spec position entry).faults spec.subTypeClasses).filter (·.isOn field) =
      (leadingFaults ctx spec entry).filter (·.isOn field) := by
  rw [faults_checkMembers]
  simp only [List.filter_append,
    ReportsOn.filter_isOn_flatMap (fun _ => reportsOn_endingFields_checkPatternFor) hending,
    reportsOn_checkStoredValues.filter_isOn hstored,
    ReportsOn.filter_isOn_flatMap (fun _ => reportsOn_endingFields_checkWhere) hending,
    ReportsOn.filter_isOn_flatMap (fun _ => reportsOn_endingFields_checkValueMap) hending,
    reportsOn_checkKind.filter_isOn hkind, List.append_nil]

/-- Two checks alone find an entry to lack references, or to have malformed ones. -/
lemma filter_isOn_checkMembers (ctx : RunScope) (spec : RuleSpec) (position : Nat) :
    ((checkMembers ctx spec position entry).faults spec.subTypeClasses).filter
        (·.isOn referencesField) =
      (checkReferencesPresent entry (code? spec.subTypeClasses entry)).faults
          spec.subTypeClasses ++
        if hasMalformedReferences entry then [malformedReferences] else [] := by
  have hending : referencesField ∉ endingFields := by
    unfold endingFields
    decide
  rw [filter_isOn_checkMembers_of_not_mem ctx spec position hending (by decide) (by decide),
    filter_isOn_leadingFaults]

/-! ### Entries that need references -/

/-- Whether rules with a code compare concepts. -/
def ComparesConcepts (code : String) : Prop :=
  code ∈ ["f2", "og", "ol1", "ol2", "oph", "ar", "sr", "oth", "t", "tb", "t1", "te"] ∨
    ∃ rest, code = "fdep" ++ rest

/-- Whether a field lists nothing: it is missing, or its value holds no scalar and no object. -/
def ListsNothing (raw? : Option Json) : Prop :=
  ∀ raw, raw? = some raw → ¬ raw.HoldsObject ∧ raw.scalars = []

/--
Whether faults are those due to references that are needed: that they are missing if nothing is
listed, that they are malformed if an object stands among them, and none otherwise.
-/
structure ReferencesReported (raw? : Option Json) (faults : List RuleFault) : Prop where
  missing : faults = [.missingField referencesField] ↔ ListsNothing raw?
  malformed : faults = [.typeMismatch referencesField "a list of concept names"] ↔
    ∃ raw, raw? = some raw ∧ raw.HoldsObject
  listed : faults = [] ↔ ∃ raw, raw? = some raw ∧ ¬ raw.HoldsObject ∧ raw.scalars ≠ []

/-- Whether a rule refers to the concepts that its entry lists, to one at least. -/
structure RefersAsListed (entry : Members) (refs : References) : Prop where
  names : ∃ raw, entry.get? referencesField = some raw ∧ ¬ raw.HoldsObject ∧
    refs.names = raw.scalars
  nonempty : refs.names ≠ []
  condition : refs.condition = .absent ↔ entry.hasKey referenceValueField = false

lemma needsReferences_iff {code : String} : needsReferences code ↔ ComparesConcepts code := by
  rw [needsReferences, Bool.or_eq_true, Text.startsWith_iff_exists, decide_eq_true_eq]
  rfl

section Reported

variable {raw : Json}

lemma referencesReported_of_listsNothing {raw? : Option Json} (h : ListsNothing raw?) :
    ReferencesReported raw? [.missingField referencesField] where
  missing := by simpa using h
  malformed := by
    simp only [List.cons.injEq, reduceCtorEq, false_and, false_iff]
    rintro ⟨raw, hraw, hobject⟩
    exact (h raw hraw).1 hobject
  listed := by
    simp only [List.cons_ne_nil, false_iff]
    rintro ⟨raw, hraw, -, hscalars⟩
    exact hscalars (h raw hraw).2

lemma referencesReported_of_holdsObject (h : raw.HoldsObject) :
    ReferencesReported (some raw) [malformedReferences] where
  missing := by simp [malformedReferences, ListsNothing, h]
  malformed := by simp [malformedReferences, h]
  listed := by simp [h]

lemma referencesReported_of_scalars (h : ¬ raw.HoldsObject) (hscalars : raw.scalars ≠ []) :
    ReferencesReported (some raw) [] where
  missing := by simp [ListsNothing, hscalars]
  malformed := by simp [h]
  listed := by simp [h, hscalars]

/-- The two checks of references find one fault at most between them. -/
lemma referencesReported_faults {code : String} (hcode : needsReferences code) :
    ReferencesReported (entry.get? referencesField)
      ((checkReferencesPresent entry (some code)).faults table ++
        if hasMalformedReferences entry then [malformedReferences] else []) := by
  rw [checkReferencesPresent, faults_reportIf, Option.any_some, hcode, Bool.true_and,
    hasReferences, hasMalformedReferences]
  cases entry.get? referencesField with
  | none =>
    apply referencesReported_of_listsNothing
    intro raw hraw
    cases hraw
  | some raw =>
    rw [Option.any_some]
    by_cases hobject : raw.HoldsObject
    · obtain ⟨e, he⟩ := Json.exists_flatten_error hobject
      simp only [he]
      rw [if_pos (Json.isSome_object_leaves_iff.2 hobject)]
      exact referencesReported_of_holdsObject hobject
    · simp only [Json.flatten_of_not_holdsObject hobject]
      rw [if_neg (Json.isSome_object_leaves_iff.not.2 hobject)]
      cases hscalars : raw.scalars with
      | nil =>
        apply referencesReported_of_listsNothing
        rintro _ ⟨⟩
        exact ⟨hobject, hscalars⟩
      | cons t ts =>
        apply referencesReported_of_scalars hobject
        rw [hscalars]
        exact List.cons_ne_nil t ts

end Reported

lemma references_of_checkReferences {refs? : Option References} {raw : Json}
    (h : (checkReferences entry).Yields table refs?)
    (hraw : entry.get? referencesField = some raw) :
    ∃ refs, refs? = some refs ∧ refs.names = raw.leaves.names ∧
      (refs.condition = .absent ↔ entry.hasKey referenceValueField = false) := by
  rw [checkReferences, hraw] at h
  rw [hasKey_eq_false_iff]
  cases hvalue : entry.get? referenceValueField with
  | none =>
    simp only [hvalue] at h
    obtain ⟨-, -, h⟩ := Check.yields_bind_iff.1 h
    exact ⟨_, (Check.yields_pure_iff.1 h).symm, rfl, by simp⟩
  | some value =>
    simp only [hvalue] at h
    obtain ⟨-, -, h⟩ := Check.yields_bind_iff.1 h
    obtain ⟨field, -, h⟩ := Check.yields_bind_iff.1 h
    exact ⟨_, (Check.yields_pure_iff.1 h).symm, rfl, by simp⟩

end Rule

/-! ### Specifications -/

/-- What is wrong with a field of the entry at a position. -/
def Compilation.faultsOn (c : Compilation) (position : Nat) (field : String) : List RuleFault :=
  ((c.errorsAt position).map (·.fault)).filter (·.isOn field)

namespace RuleSpec

variable {spec : RuleSpec} {ctx : RunScope}

lemma faultsOn_compile {i : Nat} {raw : Json} (hraw : spec.entries[i]? = some raw)
    (field : String) :
    (spec.compile ctx).faultsOn i field = (spec.faults ctx raw).filter (·.isOn field) := by
  rw [Compilation.faultsOn, errorsAt_compile, hraw, Option.elim_some, entryErrors, List.map_map]
  exact congrArg _ (List.map_id _)

lemma referencesReported {i : Nat} {entry : Members} {code : String}
    (hentry : spec.entries[i]? = some (.obj entry))
    (hcode : entry.get? Rule.validationField = some (.str code))
    (hneeds : Rule.ComparesConcepts code) :
    Rule.ReferencesReported (entry.get? Rule.referencesField)
      ((spec.compile ctx).faultsOn i Rule.referencesField) := by
  have hcomment : Rule.isComment entry = false := by
    have hremark : isRemark Rule.validationField = false := by decide
    rw [isComment_eq_false_iff]
    exact ⟨_, Json.Members.mem_of_get? hcode, hremark⟩
  have hcode? : Rule.code? spec.subTypeClasses entry = some code := Rule.get?_eq_str_iff.1 hcode
  rw [faultsOn_compile hentry, faults_obj hcomment, Rule.filter_isOn_checkMembers, hcode?]
  exact Rule.referencesReported_faults (Rule.needsReferences_iff.2 hneeds)

/--
Without errors, a rule that compares concepts refers to those that its entry lists, one at least.
The references of an entry for such a rule are reported, once, exactly if they are no such list: as
missing if they hold nothing, and as malformed if an object stands among them.
-/
theorem references_required (spec : RuleSpec) (ctx : RunScope) :
    ((spec.compile ctx).hasNoErrors → ∀ r ∈ (spec.compile ctx).rulebook.rules, ∀ code,
        r.validation = some code → Rule.ComparesConcepts code →
          ∃ entry refs, spec.entries[r.position]? = some (.obj entry) ∧
            r.references = some refs ∧ Rule.RefersAsListed entry refs) ∧
      ∀ (i : Nat) (entry : Members) (code : String), spec.entries[i]? = some (.obj entry) →
        entry.get? Rule.validationField = some (.str code) → Rule.ComparesConcepts code →
          Rule.ReferencesReported (entry.get? Rule.referencesField)
            ((spec.compile ctx).faultsOn i Rule.referencesField) := by
  refine ⟨?_, fun i entry code => referencesReported⟩
  intro hclean r hr code hvalidation hneeds
  obtain ⟨entry, hentry, hcomment, hrule⟩ := exists_members_of_mem_rules hr
  obtain ⟨entry', hentry', hyielded⟩ := yielded_of_no_errors hclean hr
  rw [hentry] at hentry'
  cases hentry'
  have hcode : Json.Members.get? Rule.validationField entry = some (.str code) := by
    rw [Rule.get?_eq_str_iff, ← (Rule.named_of_checkMembers hrule).1]
    exact hvalidation
  have hnone : (spec.compile ctx).faultsOn r.position Rule.referencesField = [] := by
    rw [Compilation.faultsOn, Compilation.errorsAt, List.isEmpty_iff.1 hclean]
    rfl
  obtain ⟨raw, hraw, hobject, hscalars⟩ := (referencesReported hentry hcode hneeds).listed.1 hnone
  obtain ⟨refs, hrefs, hnames, hcondition⟩ :=
    Rule.references_of_checkReferences hyielded.references hraw
  rw [Json.leaves_of_not_holdsObject raw hobject] at hnames
  exact ⟨entry, refs, hentry, hrefs, ⟨raw, hraw, hobject, hnames⟩, hnames ▸ hscalars, hcondition⟩

/-- An entry that compares a concept with two others, in nested lists. -/
def comparingEntry : Members :=
  [("xbrl-names", .str "us-gaap:Assets"), ("validation", .str "f2"), ("efm", .str "6.5.20"),
    ("source", .str "inline"),
    ("references", .arr [.str "us-gaap:Liabilities",
      .arr [.null, .arr [.str "us-gaap:StockholdersEquity"]]])]

/-- A specification of one code and an entry with it. -/
def comparingSpec : RuleSpec :=
  { empty with entries := [.obj comparingEntry], validations := [("f2", .obj [])] }

theorem references_required_comparing :
    (comparingSpec.compile openScope).hasNoErrors ∧ Rule.ComparesConcepts "f2" ∧
      ∃ r ∈ (comparingSpec.compile openScope).rulebook.rules, r.validation = some "f2" ∧
        ∃ refs, r.references = some refs ∧ refs.condition = .absent ∧
          refs.names = ["us-gaap:Liabilities", "us-gaap:StockholdersEquity"] := by
  have hclean : (comparingSpec.compile openScope).hasNoErrors := rfl
  have hcompares : Rule.ComparesConcepts "f2" := .inl (by simp)
  obtain ⟨r, hrules, hposition, hvalidation⟩ :
      ∃ r, (comparingSpec.compile openScope).rulebook.rules = [r] ∧ r.position = 0 ∧
        r.validation = some "f2" := ⟨_, rfl, rfl, rfl⟩
  have hr : r ∈ (comparingSpec.compile openScope).rulebook.rules := by
    rw [hrules]
    exact List.mem_singleton_self r
  obtain ⟨hrefers, -⟩ := references_required comparingSpec openScope
  obtain ⟨entry, refs, hentry, hrefs, hlisted⟩ := hrefers hclean r hr "f2" hvalidation hcompares
  rw [hposition] at hentry
  cases hentry
  refine ⟨hclean, hcompares, r, hr, hvalidation, refs, hrefs, hlisted.condition.2 rfl, ?_⟩
  obtain ⟨raw, hraw, -, hnames⟩ := hlisted.names
  cases hraw
  exact hnames

end RuleSpec

end Disclosure
