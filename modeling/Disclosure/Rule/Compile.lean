import Disclosure.Rule.Field

/-!
# Compiling rule specifications

Every entry is checked in full, so that one run reports all errors. An entry becomes a rule unless
its kind or source cannot be told, or its source does not fit the run; faults in other fields leave
the rule in place.
-/

namespace Disclosure

open Json (Members)

namespace Rule

/-! ### Entries -/

/-- Check the fields of an entry, in the order in which faults are reported. -/
def checkMembers (ctx : RunScope) (spec : RuleSpec) (position : Nat) (entry : Members) :
    Check (Option Rule) := do
  (requiredFields ctx.exhibitSpecific entry).forM (checkPresent entry)
  let citation ← checkCitation entry
  checkSeverity ctx.exhibitSpecific entry
  let validation ← checkString entry validationField
  checkReferencesPresent entry validation
  let value ← checkValue entry validation
  let lang ← checkLang entry
  checkKnown .validation spec.validations validation
  let axis ← checkString entry axisField
  checkKnown .axis spec.axisValidations axis
  let message ← checkString entry messageField
  checkKnown .message spec.messages message
  let source ← checkSource ctx entry (entry.hasKey storageField && validation.isNone)
  let names ← checkNames ctx entry
  let references ← checkReferences entry
  let subTypes ← checkSubTypes entry
  let formTypes ← checkFormTypes entry
  let patterns ← Check.collect checkPatternFor entry
  let storedValues ← checkStoredValues entry
  let clauses ← Check.collect checkWhere entry
  let valueMaps ← Check.collect (checkValueMap spec.subTypeClasses) entry
  let kind ← checkKind ctx entry validation citation
  return match kind, source with
    | some kind, some source =>
      if source.appliesTo ctx.mode then
        some {
          position, kind, source, names, subTypes, formTypes, value, axis, message, lang,
          references, storedValues, patterns, clauses, valueMaps
          severity := (entry.get? severityField).map (·.scalarText)
          attributes := entry }
      else none
    | _, _ => none

/-- Whether an entry holds nothing but comments. -/
def isComment (entry : Members) : Bool :=
  entry.all fun m => RuleSpec.isRemark m.1

/-- Check an entry. -/
def check (ctx : RunScope) (spec : RuleSpec) (position : Nat) (raw : Json) :
    Check (Option Rule) :=
  match raw with
  | .obj entry => if isComment entry then return none else checkMembers ctx spec position entry
  | _ => .refuse (.typeMismatch "sub-type-element-validations" "an object")

end Rule

/-! ### Specifications -/

/-- The rules and errors of a specification. -/
structure Compilation where
  rulebook : Rulebook
  errors : List RuleError

namespace Compilation

/-- Whether no error was found. -/
def hasNoErrors (c : Compilation) : Bool :=
  c.errors.isEmpty

/-- All rules, or else all errors. -/
def toExcept (c : Compilation) : Except (List RuleError) Rulebook :=
  if c.hasNoErrors then .ok c.rulebook else .error c.errors

end Compilation

namespace RuleSpec

/-- The rules and errors of the entries from a position on, all sharing one resolver. -/
def compileEntries (spec : RuleSpec) (ctx : RunScope) (position : Nat) (r : Resolver) :
    List Json → List Rule × List RuleError
  | [] => ([], [])
  | raw :: rest =>
    let (rule, faults, r) := Rule.check ctx spec position raw r
    let (rules, errors) := compileEntries spec ctx (position + 1) r rest
    (rule.toList ++ rules, faults.map (⟨.entry position raw, ·⟩) ++ errors)

/-- An error if an item of a table names a message that does not exist. -/
def messageError? (spec : RuleSpec) (location : String → Location) (m : String × Json) :
    Option RuleError :=
  match m.2.get? Rule.messageField with
  | some (.str message) =>
    if spec.messages.hasKey message then none
    else some ⟨location m.1, .unknownReference .message message⟩
  | _ => none

/-- The messages that the tables name and that do not exist. -/
def tableErrors (spec : RuleSpec) : List RuleError :=
  spec.axisValidations.filterMap (spec.messageError? .axisValidation) ++
    spec.validations.filterMap (spec.messageError? .validation)

/-- Compile a specification. Errors come in the order of the entries, then those of the tables. -/
def compile (spec : RuleSpec) (ctx : RunScope) : Compilation :=
  let (rules, errors) := spec.compileEntries ctx 0 (.ofTable spec.subTypeClasses) spec.entries
  { rulebook := ⟨rules, spec.subTypeClasses, spec.validations, spec.axisValidations, spec.messages⟩
    errors := errors ++ spec.tableErrors }

end RuleSpec

end Disclosure
