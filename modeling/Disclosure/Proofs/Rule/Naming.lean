import Disclosure.Proofs.Rule.References

/-!
# The concepts that a rule names

An entry lists names of concepts. Those that the model does not know are dropped when the entry is
compiled, except names for many concepts and headers; a rule asked about a concept then looks for it
among the names that are left. Both tell names for many concepts in ways of their own, and agree: a
rule is about a concept exactly if a listed name stands for it (`RuleSpec.isAbout_iff_listed`).
-/

namespace Disclosure

open Json (Members)

namespace Rule

/-! ### Names -/

/--
Whether a listed name stands for a concept: it ends with `:*` and the concept begins with what
stands in front of the star, or it is the concept itself, which the model knows or which is a
header.
-/
def StandsFor (ctx : RunScope) (listed name : String) : Prop :=
  (∃ scope rest, listed = scope ++ ":*" ∧ name = scope ++ ":" ++ rest) ∨
    listed = name ∧ (ctx.knows listed ∨ ∃ rest, listed = "header:" ++ rest)

variable {ctx : RunScope} {listed name : String}

lemma dropEnd?_append (front part : String) : Text.dropEnd? part (front ++ part) = some front := by
  rw [Text.dropEnd?, if_pos (Text.endsWith_iff_exists.2 ⟨front, rfl⟩)]
  simp

lemma append_star (scope : String) : scope ++ ":*" = scope ++ ":" ++ "*" := by
  rw [String.append_assoc]
  rfl

/-- A name with a star behind a colon stands for all concepts with its beginning. -/
lemma nameMatches_scope (scope : String) :
    nameMatches (scope ++ ":*") name ↔ ∃ rest, name = scope ++ ":" ++ rest := by
  rw [nameMatches, append_star, dropEnd?_append]
  simp only
  rw [if_pos (Text.endsWith_iff_exists.2 ⟨scope, rfl⟩), Text.startsWith_iff_exists]

/-- Any other name stands for itself alone. -/
lemma nameMatches_of_not_endsWith (h : ¬ Text.endsWith ":*" listed) :
    nameMatches listed name ↔ listed = name := by
  rw [nameMatches]
  cases hdrop : Text.dropEnd? "*" listed with
  | none => simp
  | some start =>
    have hcolon : ¬ Text.endsWith ":" start := by
      intro hcolon
      obtain ⟨scope, rfl⟩ := Text.endsWith_iff_exists.1 hcolon
      apply h
      rw [eq_append_of_dropEnd? hdrop, String.append_assoc]
      exact Text.endsWith_iff_exists.2 ⟨scope, rfl⟩
    simp [hcolon]

/-- The names that are kept and match a concept are those that stand for it. -/
lemma isKept_and_nameMatches_iff :
    (isKept ctx listed ∧ nameMatches listed name) ↔ StandsFor ctx listed name := by
  by_cases hwild : Text.endsWith ":*" listed
  · obtain ⟨scope, rfl⟩ := Text.endsWith_iff_exists.1 hwild
    have hkept : isKept ctx (scope ++ ":*") := by simp [isKept, hwild]
    rw [nameMatches_scope, StandsFor]
    constructor
    · rintro ⟨-, rest, hrest⟩
      exact .inl ⟨scope, rest, rfl, hrest⟩
    · rintro (⟨scope', rest, hscope, hrest⟩ | ⟨rfl, -⟩)
      · rw [String.append_left_inj] at hscope
        exact ⟨hkept, rest, hscope ▸ hrest⟩
      · exact ⟨hkept, "*", append_star scope⟩
  · have hkept : isKept ctx listed ↔ ctx.knows listed ∨ ∃ rest, listed = "header:" ++ rest := by
      rw [isKept, Bool.or_eq_true, Bool.or_eq_true, Text.startsWith_iff_exists]
      simp [hwild]
    rw [nameMatches_of_not_endsWith hwild, hkept, StandsFor, and_comm]
    constructor
    · exact .inr
    · rintro (⟨scope, rest, rfl, -⟩ | h)
      · exact absurd (Text.endsWith_iff_exists.2 ⟨scope, rfl⟩) hwild
      · exact h

/-! ### Entries -/

variable {table : Members} {entry : Members} {raw : Json}

/-- The fault that the names of an entry are malformed. -/
def malformedNames : RuleFault :=
  .typeMismatch namesField "a list of concept names"

lemma checkNames_of_not_holdsObject (hraw : entry.get? namesField = some raw)
    (h : ¬ raw.HoldsObject) : checkNames ctx entry = pure (raw.scalars.filter (isKept ctx)) := by
  rw [checkNames, hraw]
  simp only [Json.flatten_of_not_holdsObject h]

lemma checkNames_of_holdsObject (hraw : entry.get? namesField = some raw) (h : raw.HoldsObject) :
    (checkNames ctx entry).answer table = [] ∧
      (checkNames ctx entry).faults table = [malformedNames] := by
  obtain ⟨e, he⟩ := Json.exists_flatten_error h
  rw [checkNames, hraw]
  simp only [he]
  exact ⟨rfl, rfl⟩

/-- On the names of an entry that has some, the check of names alone reports. -/
lemma filter_isOn_names (spec : RuleSpec) (position : Nat)
    (hraw : entry.get? namesField = some raw) :
    ((checkMembers ctx spec position entry).faults spec.subTypeClasses).filter
        (·.isOn namesField) =
      ((checkNames ctx entry).faults spec.subTypeClasses).filter (·.isOn namesField) := by
  have hending : namesField ∉ endingFields := by
    unfold endingFields
    decide
  have hsilent : ∀ {α : Type} {c : Check α} {field : String},
      c.ReportsOn spec.subTypeClasses {field} → namesField ≠ field →
      (c.faults spec.subTypeClasses).filter (·.isOn namesField) = [] :=
    fun h hne => h.filter_isOn hne
  have hstring : ∀ field, namesField ≠ field →
      ((checkString entry field).faults spec.subTypeClasses).filter (·.isOn namesField) = [] :=
    fun field => hsilent reportsOn_checkString
  have hvalue : namesField ∉ {field | field ∈ ValueConstraint.fields} := by
    change namesField ∉ ValueConstraint.fields
    decide
  have hrequired : ((requiredFields ctx.exhibitSpecific entry).flatMap fun field =>
      (checkPresent entry field).faults spec.subTypeClasses).filter (·.isOn namesField) = [] := by
    rw [List.filter_flatMap, List.flatMap_eq_nil_iff]
    intro field _
    by_cases hfield : namesField = field
    · subst hfield
      simp [checkPresent, Members.hasKey, hraw]
    · exact hsilent reportsOn_checkPresent hfield
  have hreferences : namesField ∉ ({referencesField, referenceValueField} : Set String) := by
    decide
  rw [filter_isOn_checkMembers_of_not_mem ctx spec position hending (by decide) (by decide)]
  unfold leadingFaults
  simp only [List.filter_append, hrequired, filter_isOn_checkKnown,
    reportsOn_checkValue.filter_isOn hvalue, hstring validationField (by decide),
    hstring axisField (by decide), hstring messageField (by decide),
    hsilent reportsOn_checkCitation (by decide), hsilent reportsOn_checkSeverity (by decide),
    hsilent reportsOn_checkReferencesPresent (by decide),
    hsilent reportsOn_checkLang (by decide), hsilent reportsOn_checkSource (by decide),
    reportsOn_checkReferences.filter_isOn hreferences, hsilent reportsOn_checkSubTypes (by decide),
    hsilent reportsOn_checkFormTypes (by decide), List.nil_append, List.append_nil]

end Rule

/-! ### Specifications -/

namespace RuleSpec

variable {spec : RuleSpec} {ctx : RunScope}

lemma names_of_mem_rules {r : Rule} (hr : r ∈ (spec.compile ctx).rulebook.rules) {entry : Members}
    (hentry : spec.entries[r.position]? = some (.obj entry)) :
    r.names = (Rule.checkNames ctx entry).answer spec.subTypeClasses := by
  obtain ⟨kind, source, hassembled⟩ := exists_assembled_of_mem_rules hr hentry
  exact congrArg Rule.names hassembled

lemma faultsOn_names {i : Nat} {entry : Members} {raw : Json}
    (hentry : spec.entries[i]? = some (.obj entry))
    (hraw : entry.get? Rule.namesField = some raw) :
    (spec.compile ctx).faultsOn i Rule.namesField =
      ((Rule.checkNames ctx entry).faults spec.subTypeClasses).filter
        (·.isOn Rule.namesField) := by
  have hcomment : Rule.isComment entry = false := by
    have hremark : isRemark Rule.namesField = false := by decide
    rw [isComment_eq_false_iff]
    exact ⟨_, Json.Members.mem_of_get? hraw, hremark⟩
  rw [faultsOn_compile hentry, faults_obj hcomment, Rule.filter_isOn_names spec 0 hraw]

/--
A rule is about a concept exactly if a name that its entry lists stands for it. Its names are listed
names in their order, each as often as it is listed. Names among which an object stands are reported
as malformed, once and with no other fault, and none of them is kept; other names are not reported.
-/
theorem isAbout_iff_listed (spec : RuleSpec) (ctx : RunScope) :
    (∀ r ∈ (spec.compile ctx).rulebook.rules, ∀ (entry : Members) (raw : Json),
      spec.entries[r.position]? = some (.obj entry) → entry.get? Rule.namesField = some raw →
        (¬ raw.HoldsObject →
          (∀ name, r.isAbout name ↔ ∃ listed ∈ raw.scalars, Rule.StandsFor ctx listed name) ∧
            r.names.Sublist raw.scalars ∧
              ∀ name ∈ r.names, r.names.count name = raw.scalars.count name) ∧
        (raw.HoldsObject → r.names = [])) ∧
      ∀ (i : Nat) (entry : Members) (raw : Json), spec.entries[i]? = some (.obj entry) →
        entry.get? Rule.namesField = some raw →
          (raw.HoldsObject → (spec.compile ctx).faultsOn i Rule.namesField =
            [.typeMismatch Rule.namesField "a list of concept names"]) ∧
          (¬ raw.HoldsObject → (spec.compile ctx).faultsOn i Rule.namesField = []) := by
  refine ⟨fun r hr entry raw hentry hraw => ⟨fun hobject => ?_, fun hobject => ?_⟩,
    fun i entry raw hentry hraw => ⟨fun hobject => ?_, fun hobject => ?_⟩⟩
  · have hnames : r.names = raw.scalars.filter (Rule.isKept ctx) := by
      rw [names_of_mem_rules hr hentry, Rule.checkNames_of_not_holdsObject hraw hobject,
        Check.answer_pure]
    refine ⟨fun name => ?_, ?_, fun name hname => ?_⟩
    · simp only [Rule.isAbout, hnames, List.any_eq_true, List.mem_filter, and_assoc,
        Rule.isKept_and_nameMatches_iff]
    · rw [hnames]
      exact List.filter_sublist
    · rw [hnames] at hname ⊢
      exact List.count_filter (List.mem_filter.1 hname).2
  · rw [names_of_mem_rules hr hentry]
    exact (Rule.checkNames_of_holdsObject hraw hobject).1
  · rw [faultsOn_names hentry hraw, (Rule.checkNames_of_holdsObject hraw hobject).2]
    rfl
  · rw [faultsOn_names hentry hraw, Rule.checkNames_of_not_holdsObject hraw hobject]
    rfl

/-- Names for all concepts of one scope, for a header, twice, and for what the model may know. -/
def scopedNames : Json :=
  .arr [.str "dei:*", .arr [.str "header:form", .num (.int 7), .str "a*"], .str "header:form"]

/-- An entry with these names. -/
def scopedEntry : Members :=
  [("xbrl-names", scopedNames), ("validation", .str "f1"), ("efm", .str "6.5.20"),
    ("source", .str "both")]

/-- A specification of one code and an entry with it. -/
def scopedSpec : RuleSpec :=
  { empty with entries := [.obj scopedEntry], validations := [("f1", .obj [])] }

/-- A run that knows one concept, whose name ends with a star. -/
def starScope : RunScope := { openScope with knows := (· == "a*") }

theorem isAbout_iff_listed_scoped :
    ¬ scopedNames.HoldsObject ∧ ∃ r ∈ (scopedSpec.compile starScope).rulebook.rules,
      r.isAbout "dei:DocumentType" ∧ r.isAbout "a*" ∧ ¬ r.isAbout "ab" ∧
        r.names.count "header:form" = 2 := by
  have hobject : ¬ scopedNames.HoldsObject := by
    rw [← Json.object_leaves_eq_none_iff]
    rfl
  have hscalars : scopedNames.scalars = ["dei:*", "header:form", "7", "a*", "header:form"] := by
    cbv
  obtain ⟨r, hrules, hposition, hheader⟩ :
      ∃ r, (scopedSpec.compile starScope).rulebook.rules = [r] ∧ r.position = 0 ∧
        "header:form" ∈ r.names := ⟨_, rfl, rfl, by decide⟩
  have hr : r ∈ (scopedSpec.compile starScope).rulebook.rules := by
    rw [hrules]
    exact List.mem_singleton_self r
  have hentry : scopedSpec.entries[r.position]? = some (.obj scopedEntry) := by
    rw [hposition]
    rfl
  obtain ⟨hlisted, -⟩ := isAbout_iff_listed scopedSpec starScope
  obtain ⟨habout, -, hcount⟩ := (hlisted r hr scopedEntry scopedNames hentry rfl).1 hobject
  rw [hscalars] at habout hcount
  refine ⟨hobject, r, hr, ?_, ?_, ?_, ?_⟩
  · exact (habout _).2 ⟨"dei:*", by simp, .inl ⟨"dei", "DocumentType", rfl, rfl⟩⟩
  · exact (habout _).2 ⟨"a*", by simp, .inr ⟨rfl, .inl rfl⟩⟩
  · rw [habout]
    rintro ⟨listed, hmem, ⟨scope, rest, -, hname⟩ | ⟨rfl, -⟩⟩
    · have hcolon : ':' ∈ "ab".toList := by
        rw [hname]
        simp
      revert hcolon
      decide
    · revert hmem
      decide
  · rw [hcount _ hheader]
    rfl

end RuleSpec

end Disclosure
