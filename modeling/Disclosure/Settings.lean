import Disclosure.File.Path
import Disclosure.Json.Decode
import Disclosure.Rule.Entry

/-!
# Configuration of a run

Which documents a run validates, and where its resources are. A configuration is an object whose
keys may be missing but not unknown, or a list of the values in order.
-/

namespace Disclosure

open Json (Decoder DecodeError Doc Fault)

/-- The settings of a run. -/
structure Settings where
  sourceMode : SourceFilter := .both
  /-- Whether the rules are for one type of exhibit. -/
  exhibitSpecific : Bool := false
  /-- Where the resource files are. -/
  resourcesDir : Option String := none
deriving DecidableEq

namespace Settings

/-- The path of a resource file, if there is a directory of resources. -/
def resourcePath? (c : Settings) (name : String) : Option String :=
  c.resourcesDir.map (joinPath · name)

/-! ### Reading -/

/-- The mode with a given name. -/
def modeNamed (name : String) : Except DecodeError SourceFilter :=
  match SourceFilter.ofText? name with
  | some mode => .ok mode
  | none => .error (.unknownVariant name (SourceFilter.all.map SourceFilter.text))

/-- Decode a mode: its name, or an object with the name as its only key and no value. -/
def decodeMode : Decoder SourceFilter
  | _, .str name => modeNamed name
  | _, .broken .endOfText => .error (.fault .endOfText)
  | depth, .obj members stop => do
    let d ← Json.lift (Json.deeper depth)
    match members with
    | [] => .error (.fault (stop.getD .malformed))
    | (key, value) :: more =>
      let mode ← modeNamed (← Json.lift key)
      Json.decodeUnit d value
      if more.isEmpty then Json.lift (Json.atEnd stop mode) else .error (.fault .malformed)
  | _, _ => .error (.fault .malformed)

/-- Decode the directory of resources. -/
def decodeDirectory : Decoder (Option String) :=
  Json.decodeOption (Json.decodeString "path string")

/-- The names of the settings, in order. -/
def fields : List String := ["source-mode", "exhibit-specific", "resources-dir"]

/-- The settings met so far while a configuration is decoded. -/
structure Partial where
  sourceMode : Option SourceFilter := none
  exhibitSpecific : Option Bool := none
  resourcesDir : Option (Option String) := none

/-- The settings, missing ones having their defaults. -/
def Partial.finish (p : Partial) : Settings where
  sourceMode := p.sourceMode.getD .both
  exhibitSpecific := p.exhibitSpecific.getD false
  resourcesDir := p.resourcesDir.getD none

/-- Decode one member of a configuration. -/
def decodeMember (depth : Nat) (p : Partial) (m : Except Fault String × Doc) :
    Except DecodeError Partial := do
  let key ← Json.lift m.1
  match key with
  | "source-mode" =>
    return { p with sourceMode := ← Json.decodeOnce key p.sourceMode decodeMode depth m.2 }
  | "exhibit-specific" =>
    return { p with
      exhibitSpecific := ← Json.decodeOnce key p.exhibitSpecific Json.decodeBool depth m.2 }
  | "resources-dir" =>
    return { p with
      resourcesDir := ← Json.decodeOnce key p.resourcesDir decodeDirectory depth m.2 }
  | _ => .error (.unknownField key fields)

/-- Decode the settings given in order. -/
def decodeItems (depth : Nat) (items : List Doc) (stop : Option Fault) :
    Except DecodeError Settings := do
  match items with
  | [] => Json.lift (Json.atEnd stop {})
  | [a] => Json.lift (Json.atEnd stop { sourceMode := ← decodeMode depth a })
  | [a, b] =>
    let sourceMode ← decodeMode depth a
    let exhibitSpecific ← Json.decodeBool depth b
    Json.lift (Json.atEnd stop { sourceMode, exhibitSpecific })
  | a :: b :: c :: more =>
    let sourceMode ← decodeMode depth a
    let exhibitSpecific ← Json.decodeBool depth b
    let resourcesDir ← decodeDirectory depth c
    if more.isEmpty then Json.lift (Json.atEnd stop { sourceMode, exhibitSpecific, resourcesDir })
    else .error (.fault .malformed)

/-- Decode a configuration. -/
def decode : Decoder Settings
  | depth, .obj members stop => do
    let d ← Json.lift (Json.deeper depth)
    let p ← members.foldlM (decodeMember d) {}
    Json.lift (Json.atEnd stop p.finish)
  | depth, .arr items stop => do decodeItems (← Json.lift (Json.deeper depth)) items stop
  | _, d => d.reject "struct EngineConfig"

/-- The configuration in a text. -/
def ofText (s : String) : Except DecodeError Settings :=
  Json.decodeText decode s

end Settings

end Disclosure
