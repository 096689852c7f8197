import Disclosure.Fact.Context
import Disclosure.Fact.Precision

/-!
# Facts

What a submission reports: a value of a concept in a context.
-/

namespace Disclosure

/-- The value of a fact. -/
inductive FactValue where
  /-- The fact is reported as having no value. -/
  | nil
  | text (s : String)
  | number (d : Decimal)
deriving DecidableEq

/-- What an earlier check of a fact against the type of its concept has found. -/
inductive CheckState where
  | unvalidated
  | unknown
  | invalid
  | valid
  | validId
  | validNoContent
deriving DecidableEq

/-- Whether a fact has passed the check. -/
def CheckState.isValid : CheckState → Bool
  | .unvalidated | .unknown | .invalid => false
  | .valid | .validId | .validNoContent => true

/-- A reported fact. -/
structure Fact where
  concept : Concept
  value : FactValue
  /-- A fact without a context is never bound. -/
  context : Option Context
  unit : Option String
  precision : Precision
  state : CheckState
deriving DecidableEq

namespace Fact

/-- The name of a fact's concept. -/
def name (f : Fact) : String :=
  f.concept.name

/-- Whether a fact has no value. -/
def isNil (f : Fact) : Bool :=
  f.value == .nil

end Fact

/-- The least precision of the facts that have a value; exact if there are none. -/
def leastPrecision (facts : List Fact) : Precision :=
  Precision.least ((facts.filter (!·.isNil)).map (·.precision))

end Disclosure
