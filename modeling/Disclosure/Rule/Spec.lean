import Disclosure.Json.Decode
import Disclosure.Json.Text
import Disclosure.Text.Trim

/-!
# Rule specifications

The document that holds the rules: five tables, and any other keys. Every table may be left out.
Written again, the tables come first, in a fixed order.
-/

namespace Disclosure

open Json (Members Decoder DecodeError Doc Fault)

/-- A rule specification, its entries not yet examined. -/
structure RuleSpec where
  subTypeClasses : Members
  entries : List Json
  validations : Members
  axisValidations : Members
  messages : Members
  /-- All other keys, in document order. -/
  other : Members

namespace RuleSpec

/-- The specification without entries. -/
def empty : RuleSpec := ⟨[], [], [], [], [], []⟩

instance : Inhabited RuleSpec := ⟨empty⟩

/-- Whether a key carries no rule content. -/
def isRemark (key : String) : Bool :=
  Text.startsWith "comment" key || Text.startsWith "#" key

/-! ### Reading -/

/-- The tables met so far while a specification is decoded. -/
structure Partial where
  subTypeClasses : Option Members := none
  entries : Option (List Json) := none
  validations : Option Members := none
  axisValidations : Option Members := none
  messages : Option Members := none
  other : Members := []

/-- Decode one member of a specification. -/
def decodeMember (depth : Nat) (p : Partial) (m : Except Fault String × Doc) :
    Except DecodeError Partial := do
  let key ← Json.lift m.1
  match key with
  | "sub-type-classes" =>
    return { p with
      subTypeClasses := ← Json.decodeOnce key p.subTypeClasses Json.decodeTable depth m.2 }
  | "sub-type-element-validations" =>
    return { p with
      entries := ← Json.decodeOnce key p.entries (Json.decodeList Json.decodeValue) depth m.2 }
  | "validations" =>
    return { p with validations := ← Json.decodeOnce key p.validations Json.decodeTable depth m.2 }
  | "axis-validations" =>
    return { p with
      axisValidations := ← Json.decodeOnce key p.axisValidations Json.decodeTable depth m.2 }
  | "messages" =>
    return { p with messages := ← Json.decodeOnce key p.messages Json.decodeTable depth m.2 }
  | _ => return { p with other := p.other.put key (← Json.decodeValue depth m.2) }

/-- The specification, missing tables being empty. -/
def Partial.finish (p : Partial) : RuleSpec where
  subTypeClasses := p.subTypeClasses.getD []
  entries := p.entries.getD []
  validations := p.validations.getD []
  axisValidations := p.axisValidations.getD []
  messages := p.messages.getD []
  other := p.other

/-- Decode a specification. -/
def decode : Decoder RuleSpec
  | depth, .obj members stop => do
    let d ← Json.lift (Json.deeper depth)
    let p ← members.foldlM (decodeMember d) {}
    Json.lift (Json.atEnd stop p.finish)
  | _, d => d.reject "struct RawSpec"

/-- The specification in a text. -/
def ofText (s : String) : Except DecodeError RuleSpec :=
  Json.decodeText decode s

/-- The specification in a value. -/
def ofJson (v : Json) : Except DecodeError RuleSpec :=
  decode Json.maxDepth v.toDoc

/-! ### Writing -/

/-- A specification as a value: the five tables, then the other keys. -/
def toJson (s : RuleSpec) : Json :=
  .obj ([("sub-type-classes", .obj s.subTypeClasses),
    ("sub-type-element-validations", .arr s.entries),
    ("validations", .obj s.validations),
    ("axis-validations", .obj s.axisValidations),
    ("messages", .obj s.messages)] ++ s.other)

end RuleSpec

end Disclosure
