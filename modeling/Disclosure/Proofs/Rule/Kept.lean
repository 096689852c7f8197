import Disclosure.Proofs.Rule.Composition

/-!
# Entries that are kept

An entry becomes a rule if its kind and its source can be told. In a run that is not restricted to
one kind of documents, an entry without a rule has an error, unless it is a comment or has `null`
for its validation code: the code then counts as present when required fields are looked for, and
as absent when the kind is told (`kept_or_reported`).
-/

namespace Disclosure

open Json (Members)

namespace Rule

/-- Whether an entry is an object that holds nothing but comments. -/
def isSkipped : Json → Bool
  | .obj entry => isComment entry
  | _ => false

/-- Whether an entry stores no value and has `null` for its validation code. -/
def hasNullCode (entry : Members) : Bool :=
  !entry.hasKey storageField &&
    match entry.get? validationField with
    | some .null => true
    | _ => false

variable (table : Members) (ctx : RunScope) (entry : Members)

/-- The validation code of an entry. -/
def code? : Option String :=
  (checkString entry validationField).answer table

/-- The shape of the rule that an entry becomes. -/
def kind? : Option RuleShape :=
  (checkKind ctx entry (code? table entry) ((checkCitation entry).answer table)).answer table

/-- The documents that an entry is restricted to. -/
def source? : Option SourceFilter :=
  (checkSource ctx entry (entry.hasKey storageField && (code? table entry).isNone)).answer table

variable {table ctx entry}

set_option synthInstance.maxSize 10000 in
/-- An entry becomes a rule if its kind and source can be told, and the source fits the run. -/
lemma isSome_checkMembers {spec : RuleSpec} {position : Nat} :
    ((checkMembers ctx spec position entry).answer table).isSome ↔
      (kind? table ctx entry).isSome ∧ (source? table ctx entry).any (·.appliesTo ctx.mode) := by
  simp only [checkMembers, Check.answer_bind, Check.answer_pure]
  split
  · next kind source hkind hsource =>
    have hkind : kind? table ctx entry = some kind := hkind
    have hsource : source? table ctx entry = some source := hsource
    rw [hkind, hsource]
    cases h : source.appliesTo ctx.mode <;> simp [h]
  · next hnone =>
    simp only [Option.isSome_none, Bool.false_eq_true, false_iff]
    rintro ⟨hkind, hsource⟩
    obtain ⟨kind, hkind⟩ := Option.isSome_iff_exists.1 hkind
    obtain ⟨source, hsource, -⟩ := (Option.any_eq_true _ _).1 hsource
    exact hnone kind source hkind hsource

/-- Whether none of the checks of an entry finds a fault. -/
@[mk_iff] structure IsFaultless (table : Members) (ctx : RunScope) (spec : RuleSpec)
    (entry : Members) : Prop where
  required : ∀ field ∈ requiredFields ctx.exhibitSpecific entry,
    (checkPresent entry field).faults table = []
  citation : (checkCitation entry).faults table = []
  severity : (checkSeverity ctx.exhibitSpecific entry).faults table = []
  code : (checkString entry validationField).faults table = []
  referencesPresent : (checkReferencesPresent entry (code? table entry)).faults table = []
  value : (checkValue entry (code? table entry)).faults table = []
  lang : (checkLang entry).faults table = []
  codeKnown : (checkKnown .validation spec.validations (code? table entry)).faults table = []
  axis : (checkString entry axisField).faults table = []
  axisKnown : (checkKnown .axis spec.axisValidations
    ((checkString entry axisField).answer table)).faults table = []
  message : (checkString entry messageField).faults table = []
  messageKnown : (checkKnown .message spec.messages
    ((checkString entry messageField).answer table)).faults table = []
  source : (checkSource ctx entry
    (entry.hasKey storageField && (code? table entry).isNone)).faults table = []
  names : (checkNames ctx entry).faults table = []
  references : (checkReferences entry).faults table = []
  subTypes : (checkSubTypes entry).faults table = []
  formTypes : (checkFormTypes entry).faults table = []
  patterns : (Check.collect checkPatternFor entry).faults table = []
  storedValues : (checkStoredValues entry).faults table = []
  clauses : (Check.collect checkWhere entry).faults table = []
  valueMaps : (Check.collect (checkValueMap spec.subTypeClasses) entry).faults table = []
  kind : (checkKind ctx entry (code? table entry)
    ((checkCitation entry).answer table)).faults table = []

set_option synthInstance.maxSize 10000 in
lemma faults_checkMembers_eq_nil_iff {spec : RuleSpec} {position : Nat} :
    (checkMembers ctx spec position entry).faults table = [] ↔
      IsFaultless table ctx spec entry := by
  rw [isFaultless_iff]
  simp only [checkMembers, Check.faults_bind, Check.faults_pure, Check.faults_forM,
    List.append_eq_nil_iff, List.flatMap_eq_nil_iff, and_true]
  rfl

lemma IsFaultless.hasKey {spec : RuleSpec} (h : IsFaultless table ctx spec entry) {field : String}
    (hfield : field ∈ requiredFields ctx.exhibitSpecific entry) : entry.hasKey field := by
  simpa [checkPresent] using h.required field hfield

/-! ### Code, kind and source -/

variable {spec : RuleSpec}

lemma hasKey_eq_false_iff {key : String} : entry.hasKey key = false ↔ entry.get? key = none := by
  rw [Members.hasKey, Option.isSome_eq_false_iff, Option.isNone_iff_eq_none]

lemma code?_eq : code? table entry = (entry.get? validationField).bind Json.string? := by
  rw [code?, checkString]
  cases entry.get? validationField with
  | none => rfl
  | some v => cases v <;> rfl

/-- A malformed code is a fault, but `null` is not. -/
lemma get?_of_faults_checkString {field : String}
    (h : (checkString entry field).faults table = []) :
    entry.get? field = none ∨ entry.get? field = some .null ∨
      ∃ s, entry.get? field = some (.str s) := by
  rw [checkString] at h
  cases hv : entry.get? field with
  | none => exact .inl rfl
  | some v =>
    rw [hv] at h
    cases v with
    | null => exact .inr (.inl rfl)
    | str s => exact .inr (.inr ⟨s, rfl⟩)
    | _ => simp at h

/-- An entry that neither stores a value nor has `null` for its code has a code. -/
lemma IsFaultless.isSome_code? (h : IsFaultless table ctx spec entry)
    (hstorage : entry.hasKey storageField = false) (hnull : hasNullCode entry = false) :
    (code? table entry).isSome := by
  have hkey : entry.hasKey validationField := by
    refine h.hasKey ?_
    simp [requiredFields, hstorage]
  rw [code?_eq]
  obtain hv | hv | ⟨s, hv⟩ := get?_of_faults_checkString h.code
  · simp [Members.hasKey, hv] at hkey
  · simp [hasNullCode, hstorage, hv] at hnull
  · rw [hv]
    rfl

lemma IsFaultless.isSome_citation (h : IsFaultless table ctx spec entry)
    (hstorage : entry.hasKey storageField = false) (hexhibit : ctx.exhibitSpecific = false) :
    ((checkCitation entry).answer table).isSome := by
  have hcitation := h.citation
  rw [checkCitation] at hcitation ⊢
  cases hv : entry.get? sectionField with
  | none =>
    have hkey : entry.hasKey manualField := by
      refine h.hasKey ?_
      simp [requiredFields, hstorage, hexhibit, hasKey_eq_false_iff.2 hv]
    simpa [Members.hasKey] using hkey
  | some v =>
    rw [hv] at hcitation
    cases v with
    | str s =>
      simp only at hcitation ⊢
      split_ifs at hcitation ⊢ with hs
      · rfl
      · simp at hcitation
    | _ => simp at hcitation

lemma IsFaultless.isSome_kind? (h : IsFaultless table ctx spec entry)
    (hnull : hasNullCode entry = false) : (kind? table ctx entry).isSome := by
  have hkind := h.kind
  unfold kind?
  unfold checkKind at hkind ⊢
  cases hv : entry.get? storageField with
  | none =>
    have hstorage := hasKey_eq_false_iff.2 hv
    obtain ⟨code, hcode⟩ := Option.isSome_iff_exists.1 (h.isSome_code? hstorage hnull)
    simp only [hcode]
    split_ifs with hexhibit
    · rfl
    · simpa using h.isSome_citation hstorage (by simpa using hexhibit)
  | some v =>
    rw [hv] at hkind
    cases v with
    | str name => rfl
    | _ => simp at hkind

lemma IsFaultless.isSome_source? (h : IsFaultless table ctx spec entry) :
    (source? table ctx entry).isSome := by
  have hsource := h.source
  rw [source?]
  rw [checkSource] at hsource ⊢
  cases hv : entry.get? sourceField with
  | none =>
    rw [hv] at hsource
    simp only at hsource ⊢
    split_ifs at hsource ⊢ with hboth
    · rfl
    · -- the missing field has been reported, either here or among the required ones
      have hstorage : entry.hasKey storageField = false := by simpa using hsource
      have hexhibit : ctx.exhibitSpecific = false := by simpa [hstorage] using hboth
      have hkey : entry.hasKey sourceField := by
        refine h.hasKey ?_
        simp [requiredFields, hstorage, hexhibit]
      rw [hasKey_eq_false_iff.2 hv] at hkey
      cases hkey
  | some v =>
    rw [hv] at hsource
    cases v with
    | str s =>
      simp only at hsource ⊢
      cases hs : SourceFilter.ofText? s with
      | none => simp [hs] at hsource
      | some mode => rfl
    | _ => simp at hsource

/-- With `null` for the code there is no kind. -/
lemma kind?_of_hasNullCode (h : hasNullCode entry) : kind? table ctx entry = none := by
  rw [hasNullCode, Bool.and_eq_true, Bool.not_eq_true'] at h
  obtain ⟨hstorage, hcode⟩ := h
  have hnull : code? table entry = none := by
    rw [code?_eq]
    split at hcode
    · next hv => rw [hv]; rfl
    · cases hcode
  unfold kind? checkKind
  rw [hasKey_eq_false_iff.1 hstorage, hnull]
  rfl

end Rule

/-! ### Entries -/

namespace RuleSpec

variable {spec : RuleSpec} {ctx : RunScope} {position : Nat} {raw : Json}

/-- Whether an entry stores no value and has `null` for its validation code. -/
def lacksCode (raw : Json) : Bool :=
  raw.members?.any Rule.hasNullCode

lemma appliesTo_both (source : SourceFilter) : source.appliesTo .both := by
  cases source <;> rfl

lemma rule?_of_isSkipped (h : Rule.isSkipped raw) : spec.rule? ctx position raw = none := by
  cases raw with
  | obj entry =>
    rw [rule?, Rule.check, if_pos (show Rule.isComment entry from h)]
    rfl
  | _ => cases h

lemma rule?_of_lacksCode (h : lacksCode raw) : spec.rule? ctx position raw = none := by
  cases raw with
  | obj entry =>
    rw [rule?, Rule.check]
    split_ifs
    · rfl
    · rw [← Option.not_isSome_iff_eq_none, Rule.isSome_checkMembers,
        Rule.kind?_of_hasNullCode h]
      simp
  | _ => rfl

lemma isSome_rule? (hmode : ctx.mode = .both) (hskip : Rule.isSkipped raw = false)
    (hcode : lacksCode raw = false) (hfaults : spec.faults ctx raw = []) :
    (spec.rule? ctx position raw).isSome := by
  cases raw with
  | obj entry =>
    have hcomment : Rule.isComment entry = false := hskip
    rw [faults, Rule.check, hcomment] at hfaults
    rw [rule?, Rule.check, hcomment]
    have hfaultless := Rule.faults_checkMembers_eq_nil_iff.1 hfaults
    obtain ⟨source, hsource⟩ := Option.isSome_iff_exists.1 hfaultless.isSome_source?
    refine Rule.isSome_checkMembers.2 ⟨hfaultless.isSome_kind? hcode, ?_⟩
    rw [hsource, hmode]
    exact appliesTo_both source
  | _ => cases hfaults

/-! ### Runs that are not restricted -/

/-- Whether an entry is due to become a rule: it is no comment and does not lack a code. -/
def isDue (raw : Json) : Bool :=
  !Rule.isSkipped raw && !lacksCode raw

lemma isSome_rule?_iff_isDue (hmode : ctx.mode = .both) (hfaults : spec.faults ctx raw = []) :
    (spec.rule? ctx position raw).isSome ↔ isDue raw := by
  rw [isDue]
  cases hskip : Rule.isSkipped raw with
  | true => simp [rule?_of_isSkipped hskip]
  | false =>
    cases hcode : lacksCode raw with
    | true => simp [rule?_of_lacksCode hcode]
    | false => simp [isSome_rule? hmode hskip hcode hfaults]

lemma rulesAt_ne_nil_iff {i : Nat} (h : spec.entries[i]? = some raw) :
    (spec.compile ctx).rulesAt i ≠ [] ↔ (spec.rule? ctx i raw).isSome := by
  rw [rulesAt_compile, h, Option.elim_some]
  cases spec.rule? ctx i raw <;> simp

lemma errorsAt_ne_nil_iff {i : Nat} (h : spec.entries[i]? = some raw) :
    (spec.compile ctx).errorsAt i ≠ [] ↔ spec.faults ctx raw ≠ [] := by
  rw [errorsAt_compile, h, Option.elim_some, entryErrors, ne_eq, List.map_eq_nil_iff]

lemma faults_of_errors {e : Json × Nat} (h : (spec.compile ctx).errors = [])
    (he : e ∈ spec.entries.zipIdx) : spec.faults ctx e.1 = [] := by
  rw [errors_compile, List.append_eq_nil_iff, List.flatMap_eq_nil_iff] at h
  exact List.map_eq_nil_iff.1 (h.1 e he)

lemma toExcept_eq_ok {c : Compilation} {book : Rulebook} (h : c.toExcept = .ok book) :
    c.errors = [] ∧ c.rulebook = book := by
  rw [Compilation.toExcept] at h
  split_ifs at h with hclean
  exact ⟨List.isEmpty_iff.1 hclean, Except.ok.inj h⟩

/--
In a run that is not restricted, an entry that is no comment becomes a rule or has an error, unless
it lacks a code and has no other fault. Without any errors, the entries that become rules are those
that are due, each once.
-/
theorem kept_or_reported (spec : RuleSpec) (ctx : RunScope) (hmode : ctx.mode = .both) :
    (∀ (i : Nat) (raw : Json), spec.entries[i]? = some raw → Rule.isSkipped raw = false →
        (((spec.compile ctx).rulesAt i ≠ [] ∨ (spec.compile ctx).errorsAt i ≠ []) ↔
          (lacksCode raw → (spec.compile ctx).errorsAt i ≠ []))) ∧
      ∀ book, (spec.compile ctx).toExcept = .ok book →
        book.rules.map (·.position) =
          (spec.entries.zipIdx.filter fun e => isDue e.1).map Prod.snd := by
  constructor
  · intro i raw hraw hskip
    rw [rulesAt_ne_nil_iff hraw, errorsAt_ne_nil_iff hraw]
    cases hcode : lacksCode raw with
    | true => simp [rule?_of_lacksCode hcode]
    | false =>
      have hrule : spec.faults ctx raw = [] → (spec.rule? ctx i raw).isSome :=
        isSome_rule? hmode hskip hcode
      simp only [Bool.false_eq_true, false_imp_iff, iff_true]
      by_cases hfaults : spec.faults ctx raw = []
      · exact .inl (hrule hfaults)
      · exact .inr hfaults
  · intro book hbook
    obtain ⟨herrors, rfl⟩ := toExcept_eq_ok hbook
    rw [rules_compile_eq_filterMap, List.map_filterMap, ← List.filterMap_eq_map,
      List.filterMap_filter]
    refine List.filterMap_congr fun e he => ?_
    have hdue : (spec.rule? ctx e.2 e.1).isSome ↔ isDue e.1 :=
      isSome_rule?_iff_isDue hmode (faults_of_errors herrors he)
    cases hrule : spec.rule? ctx e.2 e.1 with
    | none =>
      rw [hrule] at hdue
      simp [← hdue]
    | some r =>
      rw [hrule] at hdue
      simp [← hdue, position_of_rule? spec ctx hrule]

/-! ### An entry that is lost -/

/-- An entry with all that is required of it, but with `null` for its code. -/
def uncodedEntry : Json :=
  .obj [("xbrl-names", .arr [.str "dei:DocumentType"]), ("validation", .null),
    ("efm", .str "6.5.20"), ("source", .str "both")]

/-- A specification of one code and an entry that lacks it. -/
def uncodedSpec : RuleSpec :=
  { empty with entries := [uncodedEntry], validations := [("f1", .obj [])] }

/-- A run that is not restricted, and knows all concepts. -/
def openScope : RunScope := ⟨.both, false, fun _ => true⟩

/-- Not every entry that is no comment becomes a rule or has an error. -/
theorem uncoded_entry_lost :
    ¬ ∀ (spec : RuleSpec) (ctx : RunScope), ctx.mode = .both →
      ∀ (i : Nat) (raw : Json), spec.entries[i]? = some raw → Rule.isSkipped raw = false →
        (spec.compile ctx).rulesAt i ≠ [] ∨ (spec.compile ctx).errorsAt i ≠ [] := by
  intro h
  have hrules : (uncodedSpec.compile openScope).rulesAt 0 = [] := rfl
  have herrors : (uncodedSpec.compile openScope).errorsAt 0 = [] := rfl
  exact (h uncodedSpec openScope rfl 0 uncodedEntry rfl rfl).elim (· hrules) (· herrors)

theorem kept_or_reported_uncoded :
    openScope.mode = .both ∧
    (∀ (i : Nat) (raw : Json), uncodedSpec.entries[i]? = some raw → Rule.isSkipped raw = false →
        (((uncodedSpec.compile openScope).rulesAt i ≠ [] ∨
            (uncodedSpec.compile openScope).errorsAt i ≠ []) ↔
          (lacksCode raw → (uncodedSpec.compile openScope).errorsAt i ≠ []))) ∧
      ∀ book, (uncodedSpec.compile openScope).toExcept = .ok book →
        book.rules.map (·.position) =
          (uncodedSpec.entries.zipIdx.filter fun e => isDue e.1).map Prod.snd :=
  ⟨rfl, kept_or_reported uncodedSpec openScope rfl⟩

end RuleSpec

end Disclosure
