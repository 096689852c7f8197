import Disclosure.Json.Decode
import Disclosure.Text.Trim
import Disclosure.Unicode.Lowercase

/-!
# Families of taxonomies

The releases of a family, and the latest of them.
-/

namespace Disclosure

open Json (Decoder DecodeError Doc Fault)

/-- A release of a family, as a registry lists it. -/
structure FamilyRelease where
  family : String
  ns : String
  href : String
  version : String
deriving DecidableEq

namespace FamilyRelease

/-- A text without slashes at its end. -/
def dropSlashes (s : List Char) : List Char :=
  (s.reverse.dropWhile (· == '/')).reverse

/-- The part of the namespace in front of the last one. -/
def namespaceFamily? (r : FamilyRelease) : Option String :=
  match (Text.splitAt (· == '/') (dropSlashes r.ns.toList)).reverse with
  | _ :: name :: _ => some (String.ofList name)
  | _ => none

/-- The year of the release that stands in where there is no registry. -/
def fallbackYear : String := "2024"

/-- The release of a family that stands in where there is no registry. -/
def fallback (name : String) : FamilyRelease :=
  let family := Unicode.lowercase name
  { family
    ns := "http://xbrl.sec.gov/" ++ family ++ "/" ++ fallbackYear
    href := "https://xbrl.sec.gov/" ++ family ++ "/" ++ fallbackYear ++ "/" ++ family ++ "-" ++
      fallbackYear ++ ".xsd"
    version := fallbackYear }

end FamilyRelease

/-! ### Versions -/

/-- The numbers in a version. Numbers of more than 64 bits are passed over. -/
def versionNumbers (version : String) : List Nat :=
  (Text.splitAt (!isDigit ·) version.toList).filterMap fun ds =>
    if ds.isEmpty then none
    else
      let n := readDigits 0 ds
      if n < twoTo 64 then some n else none

/-- Compare versions by their numbers one after the other, and equal ones by their text. -/
def versionOrder (a b : String) : Ordering :=
  (compareLex (fun x y : String => compare (versionNumbers x) (versionNumbers y))
    (fun x y => compare x y)) a b

/-! ### Registries -/

/-- The releases of each family. -/
structure FamilyRegistry where
  families : List (String × List FamilyRelease)

namespace FamilyRegistry

/-- No releases. -/
def empty : FamilyRegistry := ⟨[]⟩

/-- Add a release under a name, to a list of families. -/
def addTo (name : String) (r : FamilyRelease) :
    List (String × List FamilyRelease) → List (String × List FamilyRelease)
  | [] => [(name, [r])]
  | (n, rs) :: rest => if n = name then (n, rs ++ [r]) :: rest else (n, rs) :: addTo name r rest

/-- Add a release under a name. -/
def add (g : FamilyRegistry) (name : String) (r : FamilyRelease) : FamilyRegistry :=
  ⟨addTo name r g.families⟩

/-- The releases under a name. -/
def releases (g : FamilyRegistry) (name : String) : List FamilyRelease :=
  (g.families.lookup name).getD []

/-- The later of two releases. Of equal versions the first counts. -/
def later (held : Option FamilyRelease) (r : FamilyRelease) : Option FamilyRelease :=
  match held with
  | none => some r
  | some h => if versionOrder r.version h.version = .gt then some r else some h

/-- The latest release of a family, among those whose namespace has its name in lower case. -/
def latest? (g : FamilyRegistry) (name : String) : Option FamilyRelease :=
  ((g.releases name).filter (·.namespaceFamily? == some (Unicode.lowercase name))).foldl later none

end FamilyRegistry

/-- The latest release of a family; without a registry, the one that stands in. -/
def latestRelease? (name : String) (registry : Option FamilyRegistry) : Option FamilyRelease :=
  match registry with
  | some g => g.latest? name
  | none => some (.fallback name)

/-! ### Reading registries -/

namespace FamilyRelease

/-- The description of a release in messages. -/
def title : String := "struct FamilyDescriptor"

/-- The fields of a release met so far. -/
structure Partial where
  family : Option String := none
  ns : Option String := none
  href : Option String := none
  version : Option String := none

/-- Decode a field. -/
def decodeField : Decoder String :=
  Json.decodeString "a string"

/-- Decode a member of a release. Other keys are passed over. -/
def decodeMember (depth : Nat) (p : Partial) (m : Except Fault String × Doc) :
    Except DecodeError Partial := do
  let key ← Json.lift m.1
  match key with
  | "family" => return { p with family := ← Json.decodeOnce key p.family decodeField depth m.2 }
  | "namespace" => return { p with ns := ← Json.decodeOnce key p.ns decodeField depth m.2 }
  | "href" => return { p with href := ← Json.decodeOnce key p.href decodeField depth m.2 }
  | "version" => return { p with version := ← Json.decodeOnce key p.version decodeField depth m.2 }
  | _ => do
    Json.lift m.2.skip
    return p

/-- A field that must be there. -/
def need (name : String) (field : Option String) : Except DecodeError String :=
  match field with
  | some s => .ok s
  | none => .error (.missingField name)

/-- The release with the fields met. Only the version may be missing. -/
def Partial.finish (p : Partial) : Except DecodeError FamilyRelease := do
  let family ← need "family" p.family
  let ns ← need "namespace" p.ns
  let href ← need "href" p.href
  return { family, ns, href, version := p.version.getD "" }

/-- The length of a list of fields that is too short. -/
def tooShort (length : Nat) : DecodeError :=
  .wrongLength length (title ++ " with 4 elements")

/-- Decode a release given by its fields in order. -/
def decodeItems (depth : Nat) (items : List Doc) (stop : Option Fault) :
    Except DecodeError FamilyRelease := do
  let fields ← (items.take 4).mapM (decodeField depth)
  match fields with
  | [family, ns, href] => Json.lift (Json.atEnd stop { family, ns, href, version := "" })
  | [family, ns, href, version] =>
    if (items.drop 4).isEmpty then
      Json.lift (Json.atEnd stop { family, ns, href, version })
    else .error (.fault .malformed)
  | _ => Json.lift (Json.atEnd stop ()) >>= fun _ => .error (tooShort items.length)

/-- Decode a release. -/
def decode : Decoder FamilyRelease
  | depth, .obj members stop => do
    let d ← Json.lift (Json.deeper depth)
    let p ← members.foldlM (decodeMember d) {}
    Json.lift (Json.atEnd stop ())
    p.finish
  | depth, .arr items stop => do decodeItems (← Json.lift (Json.deeper depth)) items stop
  | _, d => d.reject title

end FamilyRelease

namespace FamilyRegistry

/-- Decode the releases under a name. Of a repeated name the last list counts. -/
def decodeMember (depth : Nat) (families : List (String × List FamilyRelease))
    (m : Except Fault String × Doc) : Except DecodeError (List (String × List FamilyRelease)) := do
  let name ← Json.lift m.1
  let releases ← Json.decodeList FamilyRelease.decode depth m.2
  return (name, releases) :: families

/-- Decode a registry. -/
def decode : Decoder FamilyRegistry
  | depth, .obj members stop => do
    let d ← Json.lift (Json.deeper depth)
    let families ← members.foldlM (decodeMember d) []
    Json.lift (Json.atEnd stop ⟨families⟩)
  | _, d => d.reject "a map"

/-- The registry in a text. -/
def ofText (s : String) : Except DecodeError FamilyRegistry :=
  Json.decodeText decode s

end FamilyRegistry

end Disclosure
