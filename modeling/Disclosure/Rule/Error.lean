import Disclosure.Token.Group

/-!
# Errors in rule specifications

Where an error was found, what is wrong, and how it is reported.
-/

namespace Disclosure

/-- The tables that a rule may refer to. -/
inductive ReferenceKind where
  | validation
  | axis
  | message
  | group
deriving DecidableEq

/-- How a table is named in a message. -/
def ReferenceKind.text : ReferenceKind → String
  | .validation => "validation"
  | .axis => "axis"
  | .message => "message"
  | .group => "sub-type-class"

/-- Where an error was found. -/
inductive Location where
  | entry (position : Nat) (raw : Json)
  | axisValidation (key : String)
  | validation (key : String)

namespace Location

/-- The position of the entry, if the error is in one. -/
def position? : Location → Option Nat
  | .entry position _ => some position
  | _ => none

/-- A key in brackets and quotes. -/
def keyed (table key : String) : String :=
  table ++ "[\"" ++ key ++ "\"]"

/-- How a location is named in a message. -/
def text : Location → String
  | .entry position raw => s!"sub-type-element-validations[{position}] " ++ raw.text
  | .axisValidation key => keyed "axis-validations" key
  | .validation key => keyed "validations" key

end Location

/-- What is wrong. -/
inductive RuleFault where
  | missingField (field : String)
  | invalidFormat (field detail : String)
  | unknownReference (kind : ReferenceKind) (key : String)
  | circularReference (name : String) (cycle : List String)
  | typeMismatch (field expected : String)

/-- What is wrong with a field whose groups cannot be expanded. -/
def RuleFault.ofGroup (field : String) : GroupError → RuleFault
  | .unknown name => .unknownReference .group name
  | .circular name cycle => .circularReference name cycle
  | .notASequence _ => .typeMismatch field "a list of tokens or group references"
  | .notALeaf _ => .typeMismatch field "a list of tokens or group references"

/-- An error in a rule specification. -/
structure RuleError where
  location : Location
  fault : RuleFault

namespace RuleError

/-- A name in quotes. -/
def quote (s : String) : String :=
  "\"" ++ s ++ "\""

/-- The wording of an error. -/
def message (e : RuleError) : String :=
  let place := e.location.text
  match e.fault with
  | .missingField field => "Missing " ++ quote field ++ " from " ++ place
  | .invalidFormat field detail =>
    "Invalid format for " ++ quote field ++ " in " ++ place ++ ": " ++ detail
  | .unknownReference kind key =>
    "Missing " ++ Location.keyed kind.text key ++ " referenced from " ++ place
  | .circularReference name cycle =>
    "Circular reference to @" ++ name ++ " (" ++ arrows cycle ++ ") in " ++ place
  | .typeMismatch field expected => quote field ++ " in " ++ place ++ " must be " ++ expected

end RuleError

end Disclosure
