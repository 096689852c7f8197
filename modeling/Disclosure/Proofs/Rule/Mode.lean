import Disclosure.Proofs.Rule.Kept

/-!
# Modes of a run

A run may be restricted to one kind of documents. The mode is only looked at when an entry has been
checked in full, so it has no effect on errors, and takes rules out of those of a run that is not
restricted: the ones whose source is for the other kind (`RuleSpec.compile_inMode`).
-/

namespace Disclosure

open Json (Members)

/-- The run in another mode. -/
def RunScope.inMode (ctx : RunScope) (mode : SourceFilter) : RunScope :=
  { ctx with mode }

namespace Rule

variable (table : Members) (ctx : RunScope) (spec : RuleSpec) (position : Nat) (mode : SourceFilter)

/-! ### Entries -/

set_option synthInstance.maxSize 10000 in
lemma answer_checkMembers_inMode (entry : Members) :
    (checkMembers (ctx.inMode mode) spec position entry).answer table =
      ((checkMembers (ctx.inMode .both) spec position entry).answer table).filter
        (·.source.appliesTo mode) := by
  have hsource : ∀ storageOnly, checkSource (ctx.inMode mode) entry storageOnly =
      checkSource (ctx.inMode .both) entry storageOnly := fun _ => rfl
  have hnames : checkNames (ctx.inMode mode) entry = checkNames (ctx.inMode .both) entry := rfl
  have hkind : ∀ code citation, checkKind (ctx.inMode mode) entry code citation =
      checkKind (ctx.inMode .both) entry code citation := fun _ _ => rfl
  simp only [checkMembers, Check.answer_bind, Check.answer_pure, hsource, hnames, hkind]
  split
  · next kind source _ _ =>
    rw [if_pos (show source.appliesTo (ctx.inMode .both).mode from RuleSpec.appliesTo_both source)]
    rfl
  · rfl

set_option synthInstance.maxSize 10000 in
lemma faults_checkMembers_inMode (entry : Members) :
    (checkMembers (ctx.inMode mode) spec position entry).faults table =
      (checkMembers (ctx.inMode .both) spec position entry).faults table := by
  simp only [checkMembers, Check.faults_bind, Check.faults_pure]
  rfl

end Rule

namespace RuleSpec

variable (spec : RuleSpec) (ctx : RunScope) (mode : SourceFilter)

lemma rule?_inMode (position : Nat) (raw : Json) : spec.rule? (ctx.inMode mode) position raw =
    (spec.rule? (ctx.inMode .both) position raw).filter (·.source.appliesTo mode) := by
  cases raw with
  | obj entry =>
    rw [rule?, rule?, Rule.check, Rule.check]
    split_ifs
    · rfl
    · exact Rule.answer_checkMembers_inMode _ ctx spec position mode entry
  | _ => rfl

lemma faults_inMode (raw : Json) :
    spec.faults (ctx.inMode mode) raw = spec.faults (ctx.inMode .both) raw := by
  cases raw with
  | obj entry =>
    rw [faults, faults, Rule.check, Rule.check]
    split_ifs
    · rfl
    · exact Rule.faults_checkMembers_inMode _ ctx spec 0 mode entry
  | _ => rfl

/-! ### Specifications -/

lemma errors_inMode : (spec.compile (ctx.inMode mode)).errors =
    (spec.compile (ctx.inMode .both)).errors := by
  rw [errors_compile, errors_compile]
  simp only [entryErrors, faults_inMode spec ctx mode]

lemma rules_inMode : (spec.compile (ctx.inMode mode)).rulebook.rules =
    (spec.compile (ctx.inMode .both)).rulebook.rules.filter (·.source.appliesTo mode) := by
  rw [rules_compile_eq_filterMap, rules_compile_eq_filterMap, List.filter_filterMap]
  refine List.filterMap_congr fun e _ => ?_
  rw [rule?_inMode]

/--
The mode of a run only filters. Errors are the same in every mode; the rules of a restricted run
are those of the run that is not restricted, in order, less the ones for the other kind. So every
rule is in one of the two restricted runs, and in both if it is for both.
-/
theorem compile_inMode :
    (∀ mode, (spec.compile (ctx.inMode mode)).errors =
        (spec.compile (ctx.inMode .both)).errors) ∧
      (spec.compile (ctx.inMode .inline)).rulebook.rules =
        (spec.compile (ctx.inMode .both)).rulebook.rules.filter (·.source ≠ .nonInline) ∧
      (spec.compile (ctx.inMode .nonInline)).rulebook.rules =
        (spec.compile (ctx.inMode .both)).rulebook.rules.filter (·.source ≠ .inline) ∧
      ∀ r ∈ (spec.compile (ctx.inMode .both)).rulebook.rules,
        (r ∈ (spec.compile (ctx.inMode .inline)).rulebook.rules ∨
          r ∈ (spec.compile (ctx.inMode .nonInline)).rulebook.rules) ∧
        ((r ∈ (spec.compile (ctx.inMode .inline)).rulebook.rules ∧
          r ∈ (spec.compile (ctx.inMode .nonInline)).rulebook.rules) ↔ r.source = .both) := by
  have hinline : ∀ source : SourceFilter,
      source.appliesTo .inline = decide (source ≠ .nonInline) := by
    intro source
    cases source <;> rfl
  have hnonInline : ∀ source : SourceFilter,
      source.appliesTo .nonInline = decide (source ≠ .inline) := by
    intro source
    cases source <;> rfl
  refine ⟨errors_inMode spec ctx, ?_, ?_, fun r hr => ?_⟩
  · rw [rules_inMode]
    simp only [hinline]
  · rw [rules_inMode]
    simp only [hnonInline]
  · rw [rules_inMode spec ctx .inline, rules_inMode spec ctx .nonInline]
    cases hsource : r.source <;> simp [hr, hsource, SourceFilter.appliesTo]

/-- An entry for documents of a given kind. -/
def sourcedEntry (source : String) : Json :=
  .obj [("xbrl-names", .str "dei:DocumentType"), ("validation", .str "f1"),
    ("efm", .str "6.5.20"), ("source", .str source)]

/-- One entry for each kind of documents, and one for both. -/
def sourcesSpec : RuleSpec :=
  { empty with
    entries := [sourcedEntry "inline", sourcedEntry "non-inline", sourcedEntry "both"]
    validations := [("f1", .obj [])] }

theorem compile_inMode_sources :
    (sourcesSpec.compile (openScope.inMode .both)).rulebook.rules.map (·.source) =
        [.inline, .nonInline, .both] ∧
      ∃ r ∈ (sourcesSpec.compile (openScope.inMode .both)).rulebook.rules, r.source = .both ∧
        r ∈ (sourcesSpec.compile (openScope.inMode .inline)).rulebook.rules ∧
        r ∈ (sourcesSpec.compile (openScope.inMode .nonInline)).rulebook.rules := by
  have hsources : (sourcesSpec.compile (openScope.inMode .both)).rulebook.rules.map (·.source) =
      [.inline, .nonInline, .both] := rfl
  have hboth : SourceFilter.both ∈
      (sourcesSpec.compile (openScope.inMode .both)).rulebook.rules.map (·.source) := by
    rw [hsources]
    decide
  obtain ⟨r, hr, hsource⟩ := List.mem_map.1 hboth
  obtain ⟨-, -, -, hrules⟩ := compile_inMode sourcesSpec openScope
  exact ⟨hsources, r, hr, hsource, (hrules r hr).2.2 hsource⟩

end RuleSpec

end Disclosure
