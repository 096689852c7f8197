import Disclosure.Fact.Store
import Disclosure.Taxonomy.Descent

/-!
# Binding policies

Which facts take part in a binding, and what they have to agree on. Facts that agree on the key of
a policy are bound together; the part of a context that the policy covers may differ.
-/

namespace Disclosure

/-- The demand that all members of a fact lie below a concept. -/
structure Within where
  graph : Containment
  root : Concept
  /-- The role of the first step. -/
  role : Option String

/-- What a caller asks of a binding. -/
structure Policy where
  /-- Whether facts without a value take part. -/
  includeNils : Bool := false
  filter : Option (Fact → Bool) := none
  /-- Whether facts with other axes than the covered ones are left out. -/
  noAdditionalDimensions : Bool := false
  coverPeriod : Bool := false
  coverDimensions : List Concept := []
  coverDimensionNames : List String := []
  absentDimensionNames : List String := []
  alignDimensions : Option (List Concept) := none
  coverUnit : Bool := false
  within : Option Within := none

/-- What facts that are bound together agree on. -/
inductive Alignment where
  | full
  | coverPeriod
  | coverDimensions
  | axes (axes : List Concept) (coverPeriod : Bool)

/-- A policy that cannot be followed. -/
inductive PolicyFault where
  | conflict (first second : String)
  | emptyAlignment
deriving DecidableEq

/-- The wording of an error. -/
def PolicyFault.message : PolicyFault → String
  | .conflict first second =>
    "Alignment modes " ++ first ++ " and " ++ second ++ " are mutually exclusive"
  | .emptyAlignment => "An explicit alignment must name at least one axis"

namespace Policy

/-- Whether a policy covers any axes. -/
def coversAxes (p : Policy) : Bool :=
  !p.coverDimensions.isEmpty || !p.coverDimensionNames.isEmpty

/-- The alignment that a policy asks for, if its demands fit together. -/
def alignment (p : Policy) : Except PolicyFault Alignment :=
  match p.alignDimensions with
  | some axes =>
    if axes.isEmpty then .error .emptyAlignment
    else if p.coversAxes then .error (.conflict "align-dimensions" "cover-dimensions")
    else .ok (.axes axes p.coverPeriod)
  | none =>
    match p.coverPeriod, p.coversAxes with
    | true, true => .error (.conflict "cover-period" "cover-dimensions")
    | true, false => .ok .coverPeriod
    | false, true => .ok .coverDimensions
    | false, false => .ok .full

/-! ### Admission -/

/-- Whether a member lies below the concept demanded. A value without a concept does not. -/
def memberWithin (w : Within) : Member → Bool
  | .explicit c => w.graph.reaches w.root c w.role
  | .typed _ => false

/-- Whether a policy admits facts with these dimensions. -/
def admitsDimensions (p : Policy) (dims : List Dimension) : Bool :=
  (!p.noAdditionalDimensions || dims.all (p.coverDimensions.contains ·.axis)) &&
    dims.all (!p.absentDimensionNames.contains ·.axis.name) &&
    p.within.all fun w => dims.all (memberWithin w ·.member)

/-- Whether a policy admits a fact, its context aside. -/
def admitsFact (p : Policy) (f : Fact) : Bool :=
  f.state.isValid && (p.includeNils || !f.isNil) && p.filter.all (· f)

/-- The context of a fact that takes part. -/
def admitted? (p : Policy) (f : Fact) : Option Context :=
  if p.admitsFact f then f.context.filter (p.admitsDimensions ·.dims) else none

end Policy

/-! ### Keys -/

/-- What the facts of a binding have in common; what is covered is left out. -/
structure BindingKey where
  period : Option Period
  dims : List Dimension
  unit : Option String
deriving DecidableEq

/-- What tells facts apart that agree on a key. -/
inductive CoveredPart where
  | period (p : Period)
  | dims (dims : List Dimension)
deriving DecidableEq

namespace Alignment

/-- The key of a fact under an alignment, and the covered part if the alignment tells one. -/
def keys (a : Alignment) (p : Policy) (c : Context) (unit : Option String) :
    BindingKey × Option CoveredPart :=
  let unit := if p.coverUnit then none else unit
  match a with
  | .full => (⟨some c.period, c.dims, unit⟩, none)
  | .coverPeriod => (⟨none, c.dims, unit⟩, some (.period c.period))
  | .coverDimensions =>
    let covered := c.dims.filter (p.coverDimensions.contains ·.axis)
    let kept := c.dims.filter fun d =>
      !p.coverDimensions.contains d.axis && !p.coverDimensionNames.contains d.axis.name
    (⟨some c.period, kept, unit⟩, some (.dims covered))
  | .axes as covered =>
    let aligned := c.dims.filter (as.contains ·.axis)
    (⟨if covered then none else some c.period, aligned, unit⟩, none)

end Alignment

end Disclosure
