import Disclosure.Rule.Check
import Disclosure.Rule.Entry

/-!
# Fields of an entry

The checks of single fields. A field that is malformed is reported and left out or emptied; it does
not keep the other fields from being checked.
-/

namespace Disclosure

open Json (Members)

/-- What a run is restricted to, and what it knows. -/
structure RunScope where
  mode : SourceFilter
  /-- Whether the specification is for one type of exhibit. -/
  exhibitSpecific : Bool
  /-- The concepts of the model that a submission is checked against. -/
  knows : String → Bool

namespace Rule

/-! ### Names of fields -/

/-- The field of the concepts that a rule is about. -/
def namesField : String := "xbrl-names"

/-- The field of the validation code. -/
def validationField : String := "validation"

/-- The field of the manual's section. -/
def manualField : String := "efm"

/-- The field of a document and section. -/
def sectionField : String := "msgSection"

/-- The field of the source mode. -/
def sourceField : String := "source"

/-- The field of the name that a value is stored under. -/
def storageField : String := "store-db-name"

/-- The field of the severity. -/
def severityField : String := "severity"

/-- The field of the message, and the beginning of related fields. -/
def messageField : String := "message"

/-- The field of the axis validation. -/
def axisField : String := "axis"

/-- The field of the pattern of languages. -/
def langField : String := "lang"

/-- The field of the concepts that a rule refers to. -/
def referencesField : String := "references"

/-- The field of the values that the concepts referred to must have. -/
def referenceValueField : String := "reference-value"

/-- The field of one submission type, read where `sub-types` is missing. -/
def subTypeField : String := "sub-type"

/-- The field of the form types. -/
def formTypesField : String := "form-types"

/-- The field of one form type, read where `form-types` is missing. -/
def formTypeField : String := "form-type"

/-- The field of the values that may be stored. -/
def storedValuesField : String := "store-db-valid-values"

/-! ### Scalars -/

/-- A string; `null` counts as no value. -/
def checkString (entry : Members) (field : String) : Check (Option String) :=
  match entry.get? field with
  | none => return none
  | some (.str s) => return some s
  | some .null => return none
  | some _ => .refuse (.typeMismatch field "a string")

/-- A regular expression. -/
def checkPattern (field : String) (raw : Json) : Check (Option Regex) :=
  match raw with
  | .str pattern =>
    match ValueConstraint.readPattern pattern with
    | .ok re => return some re
    | .error e => .refuse (.invalidFormat field e.message)
  | _ => .refuse (.typeMismatch field "a regular expression string")

/-- Report a name that a table does not hold. -/
def checkKnown (kind : ReferenceKind) (table : Members) (name : Option String) : Check Unit :=
  match name with
  | none => return
  | some name => .reportIf (!table.hasKey name) (.unknownReference kind name)

/-- A list is replaced by its expansion if it holds references. -/
def checkFieldValue (field : String) (raw : Json) : Check ListField := do
  if raw.refersToGroup then
    return .tokens (← .expansion field .empty (·.expand raw))
  else return .raw raw

/-- A selection of tokens. Without a value nothing is selected. -/
def checkTokens (field : String) (raw : Option Json) : Check Selection :=
  match raw with
  | none => return .none
  | some raw => .expansion field .none (·.resolve raw)

/-! ### Requirements -/

/-- Report a field that is missing. -/
def checkPresent (entry : Members) (field : String) : Check Unit :=
  .reportIf (!entry.hasKey field) (.missingField field)

/-- The fields that an entry must have. -/
def requiredFields (exhibitSpecific : Bool) (entry : Members) : List String :=
  let citation := if entry.hasKey sectionField then sectionField else manualField
  namesField ::
    if entry.hasKey storageField then []
    else validationField :: if exhibitSpecific then [] else [citation, sourceField]

/-- A severity needs a message, or a field that belongs to one. -/
def checkSeverity (exhibitSpecific : Bool) (entry : Members) : Check Unit :=
  .reportIf
    (entry.hasKey severityField && !exhibitSpecific &&
      !entry.any fun m => Text.startsWith messageField m.1)
    (.missingField "message*")

/-- The codes of rules that compare a fact with facts of other concepts. -/
def referenceCodes : List String :=
  ["f2", "og", "ol1", "ol2", "oph", "ar", "sr", "oth", "t", "tb", "t1", "te"]

/-- Whether a code is for rules that refer to other concepts. -/
def needsReferences (code : String) : Bool :=
  code ∈ referenceCodes || Text.startsWith "fdep" code

/-- Whether an entry refers to concepts. Malformed references count; they are reported elsewhere. -/
def hasReferences (entry : Members) : Bool :=
  match entry.get? referencesField with
  | none => false
  | some raw =>
    match raw.flatten with
    | .ok names => !names.isEmpty
    | .error _ => true

/-- Some codes need references. -/
def checkReferencesPresent (entry : Members) (code : Option String) : Check Unit :=
  .reportIf (code.any needsReferences && !hasReferences entry) (.missingField referencesField)

/-! ### Kind and source -/

/-- Whether the first line of a text has a colon that is followed by a digit. -/
def isSectionNumber : List Char → Bool
  | [] => false
  | ':' :: d :: s => Unicode.isDecimalDigit d || isSectionNumber (d :: s)
  | c :: s => c != '\n' && isSectionNumber s

/-- How the form of a section is shown in messages. -/
def sectionForm : String := "^.*:\\d+(\\.\\d+)*"

/-- The requirement that a rule enforces. -/
def checkCitation (entry : Members) : Check (Option Requirement) :=
  match entry.get? sectionField with
  | some (.str s) =>
    if isSectionNumber s.toList then return some (.section s)
    else .refuse (.invalidFormat sectionField
      ("value " ++ RuleError.quote s ++ " does not match " ++ RuleError.quote sectionForm))
  | some _ => .refuse (.typeMismatch sectionField "a string")
  | none => return (entry.get? manualField).map (.manual ·.scalarText)

/-- The documents that a rule is restricted to. -/
def checkSource (ctx : RunScope) (entry : Members) (storageOnly : Bool) :
    Check (Option SourceFilter) :=
  match entry.get? sourceField with
  | none =>
    if ctx.exhibitSpecific || storageOnly then return some .both
    else do
      -- for other entries the missing field has been reported already
      Check.reportIf (entry.hasKey storageField) (.missingField sourceField)
      return none
  | some (.str s) =>
    match SourceFilter.ofText? s with
    | some mode => return some mode
    | none => .refuse (.invalidFormat sourceField
        (RuleError.quote s ++ " is not one of inline, non-inline, both"))
  | some _ => .refuse (.typeMismatch sourceField "a string")

/-- The shape of a rule. -/
def checkKind (ctx : RunScope) (entry : Members) (validation : Option String)
    (citation : Option Requirement) : Check (Option RuleShape) :=
  match entry.get? storageField with
  | some (.str name) => return some (.storage name validation)
  | some _ => .refuse (.typeMismatch storageField "a string")
  | none =>
    match validation with
    | none => return none
    | some code =>
      if ctx.exhibitSpecific then return some (.exhibit code)
      else return citation.map (.standard code)

/-! ### Constraints -/

/-- The codes of rules whose value is a list of options. -/
def unionCodes : List String := ["ru", "ou"]

/-- Whether a rule with a code takes its value as a list of options. -/
def isUnion (code : Option String) : Bool :=
  code.any (· ∈ unionCodes)

/--
The constraint in a field. A list of options is expanded if it is one by the code of the rule, or
if it holds references.
-/
def checkConstraint (field : String) (raw : Json) (union : Bool) :
    Check (Option ValueConstraint) := do
  if field = ValueConstraint.valueField && raw.isList && (union || raw.refersToGroup) then
    return some (.oneOf (← .expansion field .empty (·.expand raw)))
  else
    match ValueConstraint.read field raw with
    | .ok v => return some v
    | .error e => .refuse (.invalidFormat field e.message)

/-- The constraint on values. -/
def checkValue (entry : Members) (code : Option String) : Check (Option ValueConstraint) := do
  let isList := (entry.get? ValueConstraint.valueField).any (·.isList)
  Check.reportIf (isUnion code && !isList) (.typeMismatch ValueConstraint.valueField "a list")
  match ValueConstraint.select entry with
  | none => return none
  | some (field, raw) => checkConstraint field raw (isUnion code)

/-- The pattern of languages. -/
def checkLang (entry : Members) : Check (Option Regex) :=
  match entry.get? langField with
  | none => return none
  | some raw => checkPattern langField raw

/-! ### Concepts -/

/-- Whether a name is kept: a known concept, a name for many concepts, or a header. -/
def isKept (ctx : RunScope) (name : String) : Bool :=
  ctx.knows name || Text.endsWith ":*" name || Text.startsWith "header:" name

/-- The concepts that a rule is about. -/
def checkNames (ctx : RunScope) (entry : Members) : Check (List String) :=
  match entry.get? namesField with
  | none => return []
  | some raw =>
    match raw.flatten with
    | .ok names => return names.filter (isKept ctx)
    | .error _ => do
      Check.report (.typeMismatch namesField "a list of concept names")
      return []

/-- The concepts that a rule refers to; of malformed references, those in front of the flaw. -/
def checkReferences (entry : Members) : Check (Option References) :=
  match entry.get? referencesField with
  | none => return none
  | some raw => do
    let leaves := raw.leaves
    Check.reportIf leaves.object.isSome (.typeMismatch referencesField "a list of concept names")
    match entry.get? referenceValueField with
    | none => return some ⟨leaves.names, .absent⟩
    | some value =>
      let value ← checkFieldValue referenceValueField value
      return some ⟨leaves.names, .values value⟩

/-! ### Types of submissions and forms -/

/-- The submission types that a rule applies to. -/
def checkSubTypes (entry : Members) : Check Selection :=
  checkTokens subTypesField (entry.get? subTypesField <|> entry.get? subTypeField)

/-- The form types that a rule applies to. -/
def checkFormTypes (entry : Members) : Check Selection :=
  checkTokens formTypesField (entry.get? formTypesField <|> entry.get? formTypeField)

/-! ### Fields known by their endings -/

/-- The pattern for another field, if a field is one. -/
def checkPatternFor (m : String × Json) : Check (Option (String × Regex)) :=
  if m.1 = ValueConstraint.patternField then return none
  else
    match Text.dropEnd? "-pattern" m.1 with
    | none => return none
    | some field => do return (← checkPattern m.1 m.2).map (field, ·)

/-- The values that may be stored. -/
def checkStoredValues (entry : Members) : Check (Option ListField) :=
  match entry.get? storedValuesField with
  | none => return none
  | some raw => do return some (← checkFieldValue storedValuesField raw)

/-- One condition of a clause. -/
def checkCondition (field : String) (m : String × Json) : Check (Option (String × List Json)) :=
  match m.2 with
  | .arr items => do
    if m.2.refersToGroup then
      let tokens ← Check.expansion field .empty (·.expand m.2)
      return some (m.1, tokens.items.map .str)
    else return some (m.1, items)
  | _ => .refuse (.typeMismatch (field ++ " " ++ m.1) "a list")

/-- The clause in a field, if the field is one. -/
def checkWhere (m : String × Json) : Check (Option Clause) :=
  if Text.endsWith "where" m.1 then
    match m.2 with
    | .obj conditions => do
      return some ⟨m.1, ← Check.collect (checkCondition m.1) conditions⟩
    | _ => .refuse (.typeMismatch m.1 "a mapping of conditions")
  else return none

/-- The mapping of values in a field, if the field is one. It is given in place or by its name. -/
def checkValueMap (classes : Members) (m : String × Json) : Check (Option (String × Members)) :=
  if Text.endsWith "value-map" m.1 then
    match m.2 with
    | .obj map => return some (m.1, map)
    | .str reference =>
      match referencedGroup? reference with
      | none => .refuse (.invalidFormat m.1
          (RuleError.quote reference ++ " must be a mapping or a reference to one"))
      | some name =>
        match classes.get? name with
        | some (.obj map) => return some (m.1, map)
        | some _ => .refuse (.typeMismatch m.1 "a reference to a mapping")
        | none => .refuse (.unknownReference .group name)
    | _ => .refuse (.typeMismatch m.1 "a mapping or a reference to one")
  else return none

end Rule

end Disclosure
