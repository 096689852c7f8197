import Disclosure.Proofs.Rule.Faults
import Disclosure.Proofs.Rule.Part

/-!
# Rules and faults, check by check

An entry is put through some twenty checks in a row. What they come to is written out once: the
rule is assembled from their answers if kind and source can be told (`answer_checkMembers`), and
the faults are those of the checks one after another (`faults_checkMembers`). A check looks at a few
fields only; entries that agree on these (`AgreeOn`) are the same to it.
-/

namespace Disclosure

open Json (Members)

namespace Json.Members

/-- Whether two objects hold the same under some keys. -/
def AgreeOn (keys : List String) (ms ms' : Members) : Prop :=
  ∀ key ∈ keys, ms.get? key = ms'.get? key

variable {keys keys' : List String} {ms ms' : Members}

lemma AgreeOn.mono (h : AgreeOn keys ms ms') (hsub : keys' ⊆ keys) : AgreeOn keys' ms ms' :=
  fun key hkey => h key (hsub hkey)

lemma AgreeOn.hasKey (h : AgreeOn keys ms ms') (key : String) (hkey : key ∈ keys) :
    ms.hasKey key = ms'.hasKey key := by
  rw [Members.hasKey, Members.hasKey, h key hkey]

end Json.Members

namespace Rule

/-! ### Closed forms -/

/-- The rule of a given kind and source that the answers of the checks of an entry make. -/
def assembled (ctx : RunScope) (spec : RuleSpec) (position : Nat) (entry : Members)
    (kind : RuleShape) (source : SourceFilter) : Rule where
  position := position
  kind := kind
  source := source
  names := (checkNames ctx entry).answer spec.subTypeClasses
  subTypes := (checkSubTypes entry).answer spec.subTypeClasses
  formTypes := (checkFormTypes entry).answer spec.subTypeClasses
  value := (checkValue entry (code? spec.subTypeClasses entry)).answer spec.subTypeClasses
  axis := (checkString entry axisField).answer spec.subTypeClasses
  message := (checkString entry messageField).answer spec.subTypeClasses
  severity := (entry.get? severityField).map (·.scalarText)
  lang := (checkLang entry).answer spec.subTypeClasses
  references := (checkReferences entry).answer spec.subTypeClasses
  storedValues := (checkStoredValues entry).answer spec.subTypeClasses
  patterns := entry.filterMap fun m => (checkPatternFor m).answer spec.subTypeClasses
  clauses := entry.filterMap fun m => (checkWhere m).answer spec.subTypeClasses
  valueMaps := entry.filterMap fun m =>
    (checkValueMap spec.subTypeClasses m).answer spec.subTypeClasses
  attributes := entry

/-- The faults of the fields in front of those that are known by their endings. -/
def leadingFaults (ctx : RunScope) (spec : RuleSpec) (entry : Members) : List RuleFault :=
  let table := spec.subTypeClasses
  let code := code? table entry
  ((requiredFields ctx.exhibitSpecific entry).flatMap fun field =>
      (checkPresent entry field).faults table) ++
    (checkCitation entry).faults table ++
    (checkSeverity ctx.exhibitSpecific entry).faults table ++
    (checkString entry validationField).faults table ++
    (checkReferencesPresent entry code).faults table ++
    (checkValue entry code).faults table ++
    (checkLang entry).faults table ++
    (checkKnown .validation spec.validations code).faults table ++
    (checkString entry axisField).faults table ++
    (checkKnown .axis spec.axisValidations ((checkString entry axisField).answer table)).faults
      table ++
    (checkString entry messageField).faults table ++
    (checkKnown .message spec.messages ((checkString entry messageField).answer table)).faults
      table ++
    (checkSource ctx entry (entry.hasKey storageField && code.isNone)).faults table ++
    (checkNames ctx entry).faults table ++
    (checkReferences entry).faults table ++
    (checkSubTypes entry).faults table ++
    (checkFormTypes entry).faults table

variable (ctx : RunScope) (spec : RuleSpec) (position : Nat) (entry : Members)

set_option synthInstance.maxSize 10000 in
lemma answer_checkMembers :
    (checkMembers ctx spec position entry).answer spec.subTypeClasses =
      match kind? spec.subTypeClasses ctx entry, source? spec.subTypeClasses ctx entry with
      | some kind, some source =>
        if source.appliesTo ctx.mode then some (assembled ctx spec position entry kind source)
        else none
      | _, _ => none := by
  simp only [checkMembers, Check.answer_bind, Check.answer_pure, Check.answer_collect]
  rfl

set_option synthInstance.maxSize 10000 in
lemma faults_checkMembers :
    (checkMembers ctx spec position entry).faults spec.subTypeClasses =
      leadingFaults ctx spec entry ++
        (entry.flatMap fun m => (checkPatternFor m).faults spec.subTypeClasses) ++
        (checkStoredValues entry).faults spec.subTypeClasses ++
        (entry.flatMap fun m => (checkWhere m).faults spec.subTypeClasses) ++
        (entry.flatMap fun m =>
          (checkValueMap spec.subTypeClasses m).faults spec.subTypeClasses) ++
        (checkKind ctx entry (code? spec.subTypeClasses entry)
          ((checkCitation entry).answer spec.subTypeClasses)).faults spec.subTypeClasses := by
  unfold leadingFaults
  simp only [checkMembers, Check.faults_bind, Check.faults_pure, Check.faults_forM,
    Check.faults_collect, List.append_nil, List.append_assoc]
  rfl

/-! ### What checks read -/

variable {ctx spec position entry} {other : Members}

open Json.Members (AgreeOn)

lemma checkString_congr {field : String} (h : AgreeOn [field] entry other) :
    checkString entry field = checkString other field := by
  rw [checkString, checkString, h field (by simp)]

lemma checkCitation_congr (h : AgreeOn [sectionField, manualField] entry other) :
    checkCitation entry = checkCitation other := by
  rw [checkCitation, checkCitation, h sectionField (by simp), h manualField (by simp)]

lemma checkSource_congr (h : AgreeOn [sourceField, storageField] entry other)
    (storageOnly : Bool) :
    checkSource ctx entry storageOnly = checkSource ctx other storageOnly := by
  rw [checkSource, checkSource, h sourceField (by simp), h.hasKey storageField (by simp)]

lemma checkKind_congr (h : AgreeOn [storageField] entry other) (code : Option String)
    (citation : Option Requirement) :
    checkKind ctx entry code citation = checkKind ctx other code citation := by
  unfold checkKind
  rw [h storageField (by simp)]

lemma select_congr (h : AgreeOn ValueConstraint.fields entry other) :
    ValueConstraint.select entry = ValueConstraint.select other := by
  have hmap : ∀ field ∈ ValueConstraint.fields,
      (entry.get? field).map (field, ·) = (other.get? field).map (field, ·) := by
    intro field hfield
    rw [h field hfield]
  rw [ValueConstraint.select, ValueConstraint.select, ← List.head?_filterMap,
    ← List.head?_filterMap, List.filterMap_congr hmap]

lemma checkValue_congr (h : AgreeOn ValueConstraint.fields entry other) (code : Option String) :
    checkValue entry code = checkValue other code := by
  rw [checkValue, checkValue, select_congr h, h ValueConstraint.valueField (by decide)]

lemma checkLang_congr (h : AgreeOn [langField] entry other) :
    checkLang entry = checkLang other := by
  rw [checkLang, checkLang, h langField (by simp)]

lemma checkNames_congr (h : AgreeOn [namesField] entry other) :
    checkNames ctx entry = checkNames ctx other := by
  rw [checkNames, checkNames, h namesField (by simp)]

lemma checkReferences_congr (h : AgreeOn [referencesField, referenceValueField] entry other) :
    checkReferences entry = checkReferences other := by
  rw [checkReferences, checkReferences, h referencesField (by simp),
    h referenceValueField (by simp)]

lemma checkSubTypes_congr (h : AgreeOn [subTypesField, subTypeField] entry other) :
    checkSubTypes entry = checkSubTypes other := by
  rw [checkSubTypes, checkSubTypes, h subTypesField (by simp), h subTypeField (by simp)]

lemma checkFormTypes_congr (h : AgreeOn [formTypesField, formTypeField] entry other) :
    checkFormTypes entry = checkFormTypes other := by
  rw [checkFormTypes, checkFormTypes, h formTypesField (by simp), h formTypeField (by simp)]

lemma checkStoredValues_congr (h : AgreeOn [storedValuesField] entry other) :
    checkStoredValues entry = checkStoredValues other := by
  rw [checkStoredValues, checkStoredValues, h storedValuesField (by simp)]

/-! ### Fields without an ending -/

lemma checkPatternFor_of_not_feeds {m : String × Json} (h : ¬ Feeds m.1 .patterns) :
    checkPatternFor m = pure none := by
  rw [feeds_patterns_iff, Bool.not_eq_true] at h
  rw [checkPatternFor]
  split_ifs with hkey
  · rfl
  · have hends : Text.endsWith "-pattern" m.1 = false := by simpa [isPatternKey, hkey] using h
    rw [Text.dropEnd?, hends]
    rfl

lemma checkWhere_of_not_feeds {m : String × Json} (h : ¬ Feeds m.1 .clauses) :
    checkWhere m = pure none := by
  rw [feeds_clauses_iff] at h
  rw [checkWhere, if_neg h]

lemma checkValueMap_of_not_feeds {classes : Members} {m : String × Json}
    (h : ¬ Feeds m.1 .valueMaps) : checkValueMap classes m = pure none := by
  rw [feeds_valueMaps_iff] at h
  rw [checkValueMap, if_neg h]

/-- The fields that are known by their endings, and the conditions in them. -/
def endingFields : Set String :=
  {field | (∃ e ∈ endingParts, Text.endsWith e.1 field) ∨ ' ' ∈ field.toList}

lemma mem_endingFields_of_feeds {key : String} {part : Part} (h : Feeds key part)
    (hpart : part ∈ endingParts.map Prod.snd) : key ∈ endingFields := by
  obtain ⟨e, he, rfl⟩ := List.mem_map.1 hpart
  have hends := ((feeds_ending_iff e.1 he).1 h).2
  exact .inl ⟨e, he, hends⟩

section Report

variable {table : Members} {m : String × Json}

lemma reportsOn_endingFields_checkPatternFor :
    (checkPatternFor m).ReportsOn table endingFields := by
  by_cases hfeeds : Feeds m.1 .patterns
  · apply reportsOn_checkPatternFor.mono
    exact Set.singleton_subset_iff.2 (mem_endingFields_of_feeds hfeeds (by decide))
  · rw [checkPatternFor_of_not_feeds hfeeds]
    exact Check.reportsOn_pure _

lemma reportsOn_endingFields_checkWhere : (checkWhere m).ReportsOn table endingFields := by
  by_cases hfeeds : Feeds m.1 .clauses
  · apply reportsOn_checkWhere.mono
    rintro field (rfl | ⟨condition, rfl⟩)
    · exact mem_endingFields_of_feeds hfeeds (by decide)
    · exact .inr (by simp)
  · rw [checkWhere_of_not_feeds hfeeds]
    exact Check.reportsOn_pure _

lemma reportsOn_endingFields_checkValueMap {classes : Members} :
    (checkValueMap classes m).ReportsOn table endingFields := by
  by_cases hfeeds : Feeds m.1 .valueMaps
  · apply reportsOn_checkValueMap.mono
    exact Set.singleton_subset_iff.2 (mem_endingFields_of_feeds hfeeds (by decide))
  · rw [checkValueMap_of_not_feeds hfeeds]
    exact Check.reportsOn_pure _

end Report

/-! ### Kind and source -/

/-- The fields that decide on the kind and the source of a rule. -/
def decidingFields : List String :=
  [validationField, sourceField, storageField, manualField, sectionField]

lemma code?_congr {table : Members} (h : AgreeOn [validationField] entry other) :
    code? table entry = code? table other :=
  congrArg (Check.answer table) (checkString_congr h)

lemma kind?_congr {table : Members} (h : AgreeOn decidingFields entry other) :
    kind? table ctx entry = kind? table ctx other := by
  have hcode : code? table entry = code? table other := code?_congr (h.mono (by decide))
  have hcitation : checkCitation entry = checkCitation other :=
    checkCitation_congr (h.mono (by decide))
  rw [kind?, kind?, hcode, hcitation, checkKind_congr (h.mono (by decide))]

lemma source?_congr {table : Members} (h : AgreeOn decidingFields entry other) :
    source? table ctx entry = source? table ctx other := by
  have hcode : code? table entry = code? table other := code?_congr (h.mono (by decide))
  have hstorage : entry.hasKey storageField = other.hasKey storageField :=
    h.hasKey storageField (by decide)
  rw [source?, source?, hcode, hstorage, checkSource_congr (h.mono (by decide))]

/-! ### Faults in front -/

/-- The fields with given names. -/
def fieldNames : List String :=
  decidingFields ++ namedParts.map Prod.fst

lemma mem_fieldNames {field : String} {part : Part} (h : (field, part) ∈ namedParts) :
    field ∈ fieldNames :=
  List.mem_append_right _ (List.mem_map_of_mem h)

lemma faults_required_congr {exhibitSpecific : Bool} {table : Members}
    (h : AgreeOn decidingFields entry other)
    (hnames : entry.hasKey namesField = other.hasKey namesField) :
    ((requiredFields exhibitSpecific entry).flatMap fun field =>
        (checkPresent entry field).faults table) =
      (requiredFields exhibitSpecific other).flatMap fun field =>
        (checkPresent other field).faults table := by
  have hkey : ∀ field ∈ namesField :: decidingFields, entry.hasKey field = other.hasKey field :=
    List.forall_mem_cons.2 ⟨hnames, fun field hfield => h.hasKey field hfield⟩
  have hsub : requiredFields exhibitSpecific other ⊆ namesField :: decidingFields := by
    unfold requiredFields
    split_ifs <;> decide
  have hrequired : requiredFields exhibitSpecific entry = requiredFields exhibitSpecific other := by
    rw [requiredFields, requiredFields, hkey sectionField (by decide),
      hkey storageField (by decide)]
  rw [hrequired]
  refine List.flatMap_congr fun field hfield => ?_
  rw [checkPresent, checkPresent, hkey field (hsub hfield)]

lemma checkSeverity_congr {exhibitSpecific : Bool} (h : AgreeOn [severityField] entry other)
    (hmessage : (entry.any fun m => Text.startsWith messageField m.1) =
      other.any fun m => Text.startsWith messageField m.1) :
    checkSeverity exhibitSpecific entry = checkSeverity exhibitSpecific other := by
  rw [checkSeverity, checkSeverity, h.hasKey severityField (by simp), hmessage]

lemma checkReferencesPresent_congr (h : AgreeOn [referencesField] entry other)
    (code : Option String) :
    checkReferencesPresent entry code = checkReferencesPresent other code := by
  rw [checkReferencesPresent, checkReferencesPresent, hasReferences, hasReferences,
    h referencesField (by simp)]

/-- The faults in front are those of fields with given names, and of all that begin alike. -/
lemma leadingFaults_congr (h : AgreeOn fieldNames entry other)
    (hmessage : (entry.any fun m => Text.startsWith messageField m.1) =
      other.any fun m => Text.startsWith messageField m.1) :
    leadingFaults ctx spec entry = leadingFaults ctx spec other := by
  have hfields : ∀ {fields : List String}, fields ⊆ fieldNames → AgreeOn fields entry other :=
    h.mono
  have hstring : ∀ field ∈ fieldNames, checkString entry field = checkString other field :=
    fun field hfield => checkString_congr (hfields (List.cons_subset.2 ⟨hfield, List.nil_subset _⟩))
  have hcode : code? spec.subTypeClasses entry = code? spec.subTypeClasses other :=
    code?_congr (hfields (by decide))
  unfold leadingFaults
  dsimp only
  rw [hcode, faults_required_congr (hfields (by decide)) (h.hasKey namesField (by decide)),
    checkCitation_congr (hfields (by decide)), checkSeverity_congr (hfields (by decide)) hmessage,
    hstring validationField (by decide), checkReferencesPresent_congr (hfields (by decide)),
    checkValue_congr (hfields (by decide)), checkLang_congr (hfields (by decide)),
    hstring axisField (by decide), hstring messageField (by decide),
    checkSource_congr (hfields (by decide)), h.hasKey storageField (by decide),
    checkNames_congr (hfields (by decide)), checkReferences_congr (hfields (by decide)),
    checkSubTypes_congr (hfields (by decide)), checkFormTypes_congr (hfields (by decide))]

/-! ### Parts -/

/--
Rules are assembled equal in a part if their entries agree on the fields that feed it. For the parts
made from all fields with some ending this is said of the parts.
-/
lemma equalBut_assembled {parts : Set Part} {kind : RuleShape} {source : SourceFilter}
    (hcode : AgreeOn [validationField] entry other)
    (hnamed : ∀ field part, (field, part) ∈ namedParts → part ∉ parts →
      entry.get? field = other.get? field)
    (hending : ∀ part ∈ endingParts.map Prod.snd, part ∉ parts → part.Same
      (assembled ctx spec position entry kind source)
      (assembled ctx spec position other kind source)) :
    EqualBut parts (assembled ctx spec position entry kind source)
      (assembled ctx spec position other kind source) := by
  have hagree : ∀ {part : Part} {fields : List String}, part ∉ parts →
      (∀ field ∈ fields, (field, part) ∈ namedParts) → AgreeOn fields entry other :=
    fun hpart hfields field hfield => hnamed field _ (hfields field hfield) hpart
  have hanswer : ∀ {α : Type} {c c' : Check α}, c = c' →
      c.answer spec.subTypeClasses = c'.answer spec.subTypeClasses := fun h => h ▸ rfl
  refine ⟨rfl, rfl, rfl, fun part hpart => ?_⟩
  cases part with
  | names => exact hanswer (checkNames_congr (hagree hpart (by decide)))
  | subTypes => exact hanswer (checkSubTypes_congr (hagree hpart (by decide)))
  | formTypes => exact hanswer (checkFormTypes_congr (hagree hpart (by decide)))
  | value =>
    rw [Part.Same, assembled, assembled, code?_congr hcode]
    exact hanswer (checkValue_congr (hagree hpart (by decide)) _)
  | axis => exact hanswer (checkString_congr (hagree hpart (by decide)))
  | message => exact hanswer (checkString_congr (hagree hpart (by decide)))
  | severity =>
    have hseverity : AgreeOn [severityField] entry other := hagree hpart (by decide)
    exact congrArg (Option.map _) (hseverity severityField (by simp))
  | lang => exact hanswer (checkLang_congr (hagree hpart (by decide)))
  | references => exact hanswer (checkReferences_congr (hagree hpart (by decide)))
  | storedValues => exact hanswer (checkStoredValues_congr (hagree hpart (by decide)))
  | patterns => exact hending _ (by decide) hpart
  | clauses => exact hending _ (by decide) hpart
  | valueMaps => exact hending _ (by decide) hpart

lemma forall₂_toList {α β : Type} {R : α → β → Prop} {a : Option α} {b : Option β}
    (h : Option.Rel R a b) : List.Forall₂ R a.toList b.toList := by
  cases h with
  | none => exact .nil
  | some h => exact .cons h .nil

/-- Entries with the same kind and source become rules together, and alike if these are alike. -/
lemma rel_checkMembers {R : Rule → Rule → Prop} (h : AgreeOn decidingFields entry other)
    (hassembled : ∀ kind source, R (assembled ctx spec position entry kind source)
      (assembled ctx spec position other kind source)) :
    Option.Rel R ((checkMembers ctx spec position entry).answer spec.subTypeClasses)
      ((checkMembers ctx spec position other).answer spec.subTypeClasses) := by
  rw [answer_checkMembers, answer_checkMembers, kind?_congr h, source?_congr h]
  split
  · next kind source _ _ =>
    split_ifs
    · exact .some (hassembled kind source)
    · exact .none
  · exact .none

end Rule

namespace RuleSpec

variable {spec : RuleSpec} {ctx : RunScope} {entry : Members}

/-! ### Entries that are no comments -/

lemma rule?_obj (h : Rule.isComment entry = false) (i : Nat) : spec.rule? ctx i (.obj entry) =
    (Rule.checkMembers ctx spec i entry).answer spec.subTypeClasses := by
  rw [rule?, Rule.check, h]
  rfl

lemma faults_obj (h : Rule.isComment entry = false) : spec.faults ctx (.obj entry) =
    (Rule.checkMembers ctx spec 0 entry).faults spec.subTypeClasses := by
  rw [faults, Rule.check, h]
  rfl

/-- The rules made from an entry are assembled from its checks. -/
lemma exists_assembled_of_mem_rules {r : Rule} (hr : r ∈ (spec.compile ctx).rulebook.rules)
    (hentry : spec.entries[r.position]? = some (.obj entry)) :
    ∃ kind source, r = Rule.assembled ctx spec r.position entry kind source := by
  obtain ⟨entry', hentry', -, hrule⟩ := exists_members_of_mem_rules hr
  rw [hentry] at hentry'
  cases hentry'
  rw [Rule.answer_checkMembers] at hrule
  split at hrule
  · next kind source _ _ =>
    split_ifs at hrule
    exact ⟨kind, source, (Option.some.inj hrule).symm⟩
  · cases hrule

end RuleSpec

end Disclosure
