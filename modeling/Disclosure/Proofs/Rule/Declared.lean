import Disclosure.Proofs.Rule.Faults
import Disclosure.Proofs.Rule.Resolved

/-!
# Declared names

Three fields of an entry name an item of a table, and every item of the two tables of validations
may name a message. A name that its table does not hold is reported, in every run, and nothing else
is reported as unknown but a group (`RuleSpec.names_declared`). So without errors a rulebook holds
whatever its rules and tables name.
-/

namespace Disclosure

open Json (Members)

namespace RuleSpec

/-- The items that names of a kind are looked up among. -/
def table (spec : RuleSpec) : ReferenceKind → Members
  | .validation => spec.validations
  | .axis => spec.axisValidations
  | .message => spec.messages
  | .group => spec.subTypeClasses

end RuleSpec

namespace Rule

/-- The fields of an entry that name an item of a table. -/
def namedFields : List (ReferenceKind × String) :=
  [(.validation, validationField), (.axis, axisField), (.message, messageField)]

/-- Whether the tables of a specification hold what an entry names. -/
def Declared (spec : RuleSpec) (entry : Members) : Prop :=
  ∀ kind field, (kind, field) ∈ namedFields →
    ∀ key, entry.get? field = some (.str key) → (spec.table kind).hasKey key

variable {table names : Members} {kind : ReferenceKind} {key : String} {entry : Members}

/-! ### Names of entries -/

lemma get?_eq_str_iff {field : String} :
    entry.get? field = some (.str key) ↔ (checkString entry field).answer table = some key := by
  rw [checkString]
  cases entry.get? field with
  | none => simp
  | some v => cases v <;> simp

lemma Declared.hasKey {spec : RuleSpec} {field : String} {name : Option String}
    (h : Declared spec entry) (kind : ReferenceKind) (hfield : (kind, field) ∈ namedFields)
    (hname : name = (checkString entry field).answer table) (hkey : name = some key) :
    (spec.table kind).hasKey key :=
  h kind field hfield key (get?_eq_str_iff.2 (hname.symm.trans hkey))

lemma unknownReference_mem_faults_checkKnown {name : Option String} {kind' : ReferenceKind} :
    .unknownReference kind key ∈ (checkKnown kind' names name).faults table ↔
      kind = kind' ∧ name = some key ∧ names.hasKey key = false := by
  unfold checkKnown
  cases name with
  | none => simp
  | some n =>
    rw [Check.faults_reportIf]
    constructor
    · intro h
      split_ifs at h with hn
      · cases List.mem_singleton.1 h
        exact ⟨rfl, rfl, by simpa using hn⟩
      · cases h
    · rintro ⟨rfl, hn, hkey⟩
      cases hn
      simp [hkey]

/-- Checks of fields do not report that a table lacks a name. -/
lemma unknownReference_not_mem_faults {α : Type} {c : Check α} {fields : Set String}
    (h : c.ReportsOn table fields) (hkind : kind ≠ .group) :
    .unknownReference kind key ∉ c.faults table :=
  fun hmem => hkind (h _ hmem)

set_option synthInstance.maxSize 10000 in
/-- The names that an entry is reported to miss, groups aside, are those that are not declared. -/
lemma unknownReference_mem_faults_iff {ctx : RunScope} {spec : RuleSpec} {position : Nat}
    (hkind : kind ≠ .group) :
    .unknownReference kind key ∈ (checkMembers ctx spec position entry).faults table ↔
      ∃ field, (kind, field) ∈ namedFields ∧ entry.get? field = some (.str key) ∧
        (spec.table kind).hasKey key = false := by
  have hnot : ∀ {α : Type} {c : Check α} {fields : Set String}, c.ReportsOn table fields →
      .unknownReference kind key ∉ c.faults table :=
    fun h => unknownReference_not_mem_faults h hkind
  simp only [checkMembers, Check.faults_bind, Check.faults_pure, List.mem_append,
    unknownReference_mem_faults_checkKnown, ← get?_eq_str_iff,
    hnot (Check.reportsOn_forM fun _ _ => reportsOn_checkPresent), hnot reportsOn_checkCitation,
    hnot reportsOn_checkSeverity, hnot reportsOn_checkString,
    hnot reportsOn_checkReferencesPresent, hnot reportsOn_checkValue, hnot reportsOn_checkLang,
    hnot reportsOn_checkSource, hnot reportsOn_checkNames, hnot reportsOn_checkReferences,
    hnot reportsOn_checkSubTypes, hnot reportsOn_checkFormTypes,
    hnot (Check.reportsOn_collect fun _ _ => reportsOn_checkPatternFor),
    hnot reportsOn_checkStoredValues,
    hnot (Check.reportsOn_collect fun _ _ => reportsOn_checkWhere),
    hnot (Check.reportsOn_collect fun _ _ => reportsOn_checkValueMap),
    hnot reportsOn_checkKind, List.not_mem_nil, false_or, or_false]
  cases kind <;> simp [namedFields, RuleSpec.table] at hkind ⊢

lemma declared_iff {ctx : RunScope} {spec : RuleSpec} {position : Nat} :
    Declared spec entry ↔ ∀ kind key,
      .unknownReference kind key ∈ (checkMembers ctx spec position entry).faults table →
        kind = .group := by
  constructor
  · intro h kind key hmem
    by_contra hkind
    obtain ⟨field, hfield, hkey, hmissing⟩ := (unknownReference_mem_faults_iff hkind).1 hmem
    have hheld := h kind field hfield key hkey
    rw [hmissing] at hheld
    cases hheld
  · intro h kind field hfield key hkey
    by_contra hmissing
    have hkind : kind ≠ .group := by
      rintro rfl
      simp [namedFields] at hfield
    rw [Bool.not_eq_true] at hmissing
    exact hkind (h kind key
      ((unknownReference_mem_faults_iff hkind).2 ⟨field, hfield, hkey, hmissing⟩))

/-! ### Names of rules -/

lemma validation_of_checkKind {ctx : RunScope} {code : Option String}
    {citation : Option Requirement} {shape : RuleShape}
    (h : (checkKind ctx entry code citation).answer table = some shape) :
    shape.validation = code := by
  unfold checkKind at h
  split at h
  · cases h
    rfl
  · cases h
  · cases code with
    | none => cases h
    | some code =>
      simp only at h
      split_ifs at h
      · cases h
        rfl
      · obtain ⟨requirement, -, rfl⟩ := Option.map_eq_some_iff.1 h
        rfl

set_option synthInstance.maxSize 10000 in
/-- What a rule names is what its entry names. -/
lemma named_of_checkMembers {ctx : RunScope} {spec : RuleSpec} {position : Nat} {r : Rule}
    (h : (checkMembers ctx spec position entry).answer table = some r) :
    r.validation = (checkString entry validationField).answer table ∧
      r.axis = (checkString entry axisField).answer table ∧
      r.message = (checkString entry messageField).answer table := by
  simp only [checkMembers, Check.answer_bind, Check.answer_pure] at h
  split at h
  · next kind source hkind hsource =>
    split_ifs at h
    cases h
    exact ⟨validation_of_checkKind hkind, rfl, rfl⟩
  · cases h

end Rule

/-! ### Specifications -/

namespace RuleSpec

/--
Whether the tables of a specification hold whatever is named in it: by the entries that are no
comments, and by the items of the tables of validations and axis validations.
-/
structure DeclaresNames (spec : RuleSpec) : Prop where
  entries : ∀ entry, .obj entry ∈ spec.entries → Rule.isComment entry = false →
    Rule.Declared spec entry
  messages : ∀ m ∈ spec.axisValidations ++ spec.validations, ∀ key,
    m.2.get? Rule.messageField = some (.str key) → spec.messages.hasKey key

variable {spec : RuleSpec}

lemma declared_iff_faults (ctx : RunScope) {raw : Json} :
    (∀ entry, raw = .obj entry → Rule.isComment entry = false → Rule.Declared spec entry) ↔
      ∀ kind key, .unknownReference kind key ∈ spec.faults ctx raw → kind = .group := by
  cases raw with
  | obj entry =>
    rw [faults, Rule.check]
    split_ifs with hcomment
    · simp [hcomment]
    · rw [← Rule.declared_iff]
      simp [hcomment]
  | _ => simp [faults, Rule.check]

lemma tableErrors_eq_nil_iff : spec.tableErrors = [] ↔
    ∀ m ∈ spec.axisValidations ++ spec.validations, ∀ key,
      m.2.get? Rule.messageField = some (.str key) → spec.messages.hasKey key := by
  rw [tableErrors, List.append_eq_nil_iff, List.filterMap_eq_nil_iff, List.filterMap_eq_nil_iff,
    List.forall_mem_append]
  simp only [messageError?_eq_none_iff, Misses, not_and, Bool.not_eq_false]

/-- Names are declared exactly if nothing but groups is reported as unknown, in whatever run. -/
lemma declaresNames_iff (ctx : RunScope) : spec.DeclaresNames ↔
    ∀ e ∈ (spec.compile ctx).errors, ∀ kind key, e.fault = .unknownReference kind key →
      kind = .group := by
  rw [errors_compile, List.forall_mem_append]
  constructor
  · intro h
    constructor
    · intro e he kind key hfault
      obtain ⟨⟨raw, i⟩, hraw, he⟩ := List.mem_flatMap.1 he
      obtain ⟨f, hf, rfl⟩ := List.mem_map.1 he
      obtain rfl : f = .unknownReference kind key := hfault
      refine (declared_iff_faults ctx).1 (fun entry hentry => ?_) kind key hf
      exact h.entries entry (hentry ▸ List.fst_mem_of_mem_zipIdx hraw)
    · rw [tableErrors_eq_nil_iff.2 h.messages]
      intro e he
      cases he
  · rintro ⟨hentries, htables⟩
    constructor
    · intro entry hentry
      obtain ⟨i, hi⟩ := List.mem_iff_getElem?.1 hentry
      refine (declared_iff_faults ctx).2 (fun kind key hf => ?_) entry rfl
      refine hentries ⟨.entry i (.obj entry), _⟩ ?_ kind key rfl
      exact List.mem_flatMap.2 ⟨(.obj entry, i), List.mem_zipIdx_iff_getElem?.2 hi,
        List.mem_map.2 ⟨_, hf, rfl⟩⟩
    · rw [← tableErrors_eq_nil_iff, List.eq_nil_iff_forall_not_mem]
      intro e he
      obtain ⟨location, m, key, -, -, rfl⟩ := mem_tableErrors_iff.1 he
      cases htables _ he _ key rfl

end RuleSpec

/-- Whether a rulebook holds whatever its rules and the tables of a specification name. -/
structure Rulebook.Holds (book : Rulebook) (spec : RuleSpec) : Prop where
  validation : ∀ r ∈ book.rules, ∀ key, r.validation = some key → (book.validation? key).isSome
  axis : ∀ r ∈ book.rules, ∀ key, r.axis = some key → (book.axisValidation? key).isSome
  message : ∀ r ∈ book.rules, ∀ key, r.message = some key → (book.message? key).isSome
  tables : ∀ m ∈ spec.axisValidations ++ spec.validations, ∀ key,
    m.2.get? Rule.messageField = some (.str key) → (book.message? key).isSome

namespace RuleSpec

variable {spec : RuleSpec} {ctx : RunScope}

lemma DeclaresNames.holds (h : spec.DeclaresNames) : (spec.compile ctx).rulebook.Holds spec := by
  have hnamed : ∀ r ∈ (spec.compile ctx).rulebook.rules, ∃ entry, Rule.Declared spec entry ∧
      r.validation = (Rule.checkString entry Rule.validationField).answer spec.subTypeClasses ∧
      r.axis = (Rule.checkString entry Rule.axisField).answer spec.subTypeClasses ∧
      r.message = (Rule.checkString entry Rule.messageField).answer spec.subTypeClasses := by
    intro r hr
    obtain ⟨entry, hentry, hcomment, hrule⟩ := exists_members_of_mem_rules hr
    exact ⟨entry, h.entries entry (List.mem_of_getElem? hentry) hcomment,
      Rule.named_of_checkMembers hrule⟩
  constructor
  · intro r hr key hkey
    obtain ⟨entry, hentry, hvalidation, -, -⟩ := hnamed r hr
    exact hentry.hasKey .validation (by simp [Rule.namedFields]) hvalidation hkey
  · intro r hr key hkey
    obtain ⟨entry, hentry, -, haxis, -⟩ := hnamed r hr
    exact hentry.hasKey .axis (by simp [Rule.namedFields]) haxis hkey
  · intro r hr key hkey
    obtain ⟨entry, hentry, -, -, hmessage⟩ := hnamed r hr
    exact hentry.hasKey .message (by simp [Rule.namedFields]) hmessage hkey
  · exact h.messages

/--
Whatever a specification names is declared exactly if no run reports anything but a group as
unknown. Without errors the rulebook then holds all that its rules and the tables name.
-/
theorem names_declared (spec : RuleSpec) (ctx : RunScope) :
    (spec.DeclaresNames ↔ ∀ e ∈ (spec.compile ctx).errors, ∀ kind key,
        e.fault = .unknownReference kind key → kind = .group) ∧
      ((spec.compile ctx).hasNoErrors → (spec.compile ctx).rulebook.Holds spec) := by
  refine ⟨declaresNames_iff ctx, fun hclean => ?_⟩
  have herrors : (spec.compile ctx).errors = [] := List.isEmpty_iff.1 hclean
  have hnames : spec.DeclaresNames := by
    rw [declaresNames_iff ctx, herrors]
    intro e he
    cases he
  exact hnames.holds

/-- An entry that names an item of each of the three tables, below a comment. -/
def namingSpec : RuleSpec :=
  { empty with
    entries := [.obj [("comment", .str "cover page")],
      .obj [("xbrl-names", .str "dei:DocumentType"), ("validation", .str "f1"),
        ("efm", .str "6.5.20"), ("source", .str "inline"), ("axis", .str "legal"),
        ("message", .str "required")]]
    validations := [("f1", .obj [("message", .str "required")])]
    axisValidations := [("legal", .obj [("message", .str "required")])]
    messages := [("required", .str "Value is missing.")] }

theorem names_declared_naming :
    (namingSpec.compile openScope).hasNoErrors ∧
      (namingSpec.compile openScope).rulebook.rules.map
        (fun r => (r.validation, r.axis, r.message)) =
          [(some "f1", some "legal", some "required")] ∧
      namingSpec.DeclaresNames ∧ (namingSpec.compile openScope).rulebook.Holds namingSpec := by
  have hclean : (namingSpec.compile openScope).hasNoErrors := rfl
  have hnone : ∀ e ∈ (namingSpec.compile openScope).errors, ∀ kind key,
      e.fault = .unknownReference kind key → kind = .group := by
    rw [List.isEmpty_iff.1 hclean]
    intro e he
    cases he
  obtain ⟨hiff, hholds⟩ := names_declared namingSpec openScope
  exact ⟨hclean, rfl, hiff.2 hnone, hholds hclean⟩

end RuleSpec

end Disclosure
