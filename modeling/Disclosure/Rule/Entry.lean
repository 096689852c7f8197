import Disclosure.Rule.Spec
import Disclosure.Rule.Value
import Disclosure.Token.Selection

/-!
# Compiled rules

A rule with all its references resolved, and the set of rules that applies to submissions.
-/

namespace Disclosure

open Json (Members)

/-- The kind of filing document that a rule, or a run, is restricted to. -/
inductive SourceFilter where
  | inline
  | nonInline
  | both
deriving DecidableEq, Inhabited

namespace SourceFilter

/-- The name of a mode. -/
def text : SourceFilter → String
  | .inline => "inline"
  | .nonInline => "non-inline"
  | .both => "both"

/-- The modes. -/
def all : List SourceFilter := [.inline, .nonInline, .both]

/-- The mode with a given name. -/
def ofText? (s : String) : Option SourceFilter :=
  all.find? (·.text == s)

/-- Whether a rule restricted to `m` takes part in a run restricted to `run`. -/
def appliesTo (m run : SourceFilter) : Bool :=
  m == .both || run == .both || m == run

end SourceFilter

/-- How a rule names the requirement that it enforces. -/
inductive Requirement where
  | manual (text : String)
  /-- A document and a section number, joined by a colon. -/
  | section (text : String)
deriving DecidableEq

/-- The shapes of a rule. -/
inductive RuleShape where
  /-- Stores a value for later use, and may validate it. -/
  | storage (name : String) (validation : Option String)
  /-- A rule for one type of exhibit. -/
  | exhibit (validation : String)
  | standard (validation : String) (citation : Requirement)
deriving DecidableEq

/-- The validation code of a rule. -/
def RuleShape.validation : RuleShape → Option String
  | .storage _ v => v
  | .exhibit v => some v
  | .standard v _ => some v

/-- A field whose list is replaced by its expansion if it holds references to groups. -/
inductive ListField where
  | tokens (tokens : Tokens)
  | raw (value : Json)

/-- What the concepts that a rule refers to have to satisfy. -/
inductive ReferenceDemand where
  | absent
  | values (value : ListField)

/-- The concepts that a rule refers to. -/
structure References where
  names : List String
  condition : ReferenceDemand

/-- A field of conditions, each with its list of values. -/
structure Clause where
  field : String
  conditions : List (String × List Json)

/-- The values of a condition. -/
def Clause.condition? (w : Clause) (name : String) : Option (List Json) :=
  w.conditions.lookup name

/-- A compiled rule. -/
structure Rule where
  /-- The position of the entry among the entries of the specification. -/
  position : Nat
  kind : RuleShape
  source : SourceFilter
  names : List String
  subTypes : Selection
  formTypes : Selection
  value : Option ValueConstraint
  axis : Option String
  message : Option String
  severity : Option String
  lang : Option Regex
  references : Option References
  storedValues : Option ListField
  /-- The patterns of the entry, under the names of the fields that they constrain. -/
  patterns : List (String × Regex)
  clauses : List Clause
  valueMaps : List (String × Members)
  /-- The entry itself. -/
  attributes : Members

namespace Rule

/-- The field of the submission types that a rule applies to. -/
def subTypesField : String := "sub-types"

/-- The validation code of a rule. -/
def validation (r : Rule) : Option String :=
  r.kind.validation

/-- The pattern for a field. -/
def pattern? (r : Rule) (field : String) : Option Regex :=
  r.patterns.lookup field

/-- The conditions of a field. -/
def clause? (r : Rule) (field : String) : Option Clause :=
  r.clauses.find? (·.field == field)

/-- The mapping of a field. -/
def valueMap? (r : Rule) (field : String) : Option Members :=
  r.valueMaps.lookup field

/-- A field of the entry. -/
def attribute? (r : Rule) (key : String) : Option Json :=
  r.attributes.get? key

/-- Whether a rule applies to a submission type, and to a form type if it names any. -/
def appliesTo (r : Rule) (subType : String) (formType : Option String) : Bool :=
  (r.subTypes.selects subType || (r.pattern? subTypesField).any (·.isMatch subType)) &&
    (r.formTypes.isEmpty || formType.any r.formTypes.selects)

/-- Whether a listed name stands for a concept: the concept itself, or all with its beginning. -/
def nameMatches (listed name : String) : Bool :=
  match Text.dropEnd? "*" listed with
  | some start => if Text.endsWith ":" start then Text.startsWith start name else listed == name
  | none => listed == name

/-- Whether a rule names a concept. -/
def isAbout (r : Rule) (name : String) : Bool :=
  r.names.any (nameMatches · name)

end Rule

/-- The compiled rules of a run, with the tables that they refer to. -/
structure Rulebook where
  rules : List Rule
  subTypeClasses : Members
  validations : Members
  axisValidations : Members
  messages : Members

namespace Rulebook

/-- The number of rules. -/
def size (s : Rulebook) : Nat :=
  s.rules.length

/-- Whether there are no rules. -/
def isEmpty (s : Rulebook) : Bool :=
  s.rules.isEmpty

/-- The rules that apply to a submission, in document order. -/
def applicable (s : Rulebook) (subType : String) (formType : Option String) : List Rule :=
  s.rules.filter (·.appliesTo subType formType)

/-- The message under a key. -/
def message? (s : Rulebook) (key : String) : Option Json :=
  s.messages.get? key

/-- The validation with a code. -/
def validation? (s : Rulebook) (code : String) : Option Json :=
  s.validations.get? code

/-- The axis validation with a code. -/
def axisValidation? (s : Rulebook) (code : String) : Option Json :=
  s.axisValidations.get? code

/-- The class of submission types with a name. -/
def subTypeClass? (s : Rulebook) (name : String) : Option Json :=
  s.subTypeClasses.get? name

end Rulebook

end Disclosure
