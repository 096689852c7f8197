import Disclosure.Calendar.DateText
import Disclosure.Fact.Concept
import Disclosure.File.Cache
import Disclosure.Taxonomy.Namespace

/-!
# Deprecated concepts

When concepts of standard taxonomies were deprecated. The dates are in one file for each family;
what cannot be read is left out.
-/

namespace Disclosure

/-- The dates on which concepts were deprecated. -/
structure Deprecations where
  dates : List (Concept × Date)

namespace Deprecations

/-- No dates. -/
def empty : Deprecations := ⟨[]⟩

/-- Set the date of a concept in a list. -/
def putDate (c : Concept) (d : Date) : List (Concept × Date) → List (Concept × Date)
  | [] => [(c, d)]
  | (c', d') :: rest => if c' = c then (c, d) :: rest else (c', d') :: putDate c d rest

/-- Set the date of a concept. -/
def insert (ds : Deprecations) (c : Concept) (d : Date) : Deprecations :=
  ⟨putDate c d ds.dates⟩

/-- The date of a concept. -/
def get? (ds : Deprecations) (c : Concept) : Option Date :=
  ds.dates.lookup c

/-- The number of concepts with a date. -/
def size (ds : Deprecations) : Nat :=
  ds.dates.length

/-- Whether no concept has a date. -/
def isEmpty (ds : Deprecations) : Bool :=
  ds.dates.isEmpty

/-! ### Loading -/

/-- The file for a short form of a namespace. -/
def fileName (key : String) : String :=
  String.ofList (key.toList.takeWhile (· != '/')) ++ "-deprecated-concepts.json"

/-- The object in a file, if there is one. -/
def object? (files : FileStore) (path : String) : Option Json.Members :=
  match files.loadValue path with
  | .ok (some (.obj ms)) => some ms
  | _ => none

/-- Add the date of a concept, if it is one. -/
def addMember (ns : String) (ds : Deprecations) (m : String × Json) : Deprecations :=
  match m.2.string?.bind Date.ofText? with
  | some date => ds.insert ⟨ns, m.1⟩ date
  | none => ds

/-- What is known while files are loaded: the objects found at the paths so far, and the dates. -/
structure Loading where
  opened : List (String × Option Json.Members)
  dates : Deprecations

namespace Loading

/-- No path has been opened. -/
def start : Loading := ⟨[], .empty⟩

/-- Open a file, unless that was done before. -/
def openFile (files : FileStore) (l : Loading) (path : String) : Option Json.Members × Loading :=
  match l.opened.lookup path with
  | some found => (found, l)
  | none =>
    let found := object? files path
    (found, { l with opened := (path, found) :: l.opened })

/-- Add the dates for a namespace. The releases of a family share one file. -/
def addNamespace (files : FileStore) (directory : String) (l : Loading) (ns : String) : Loading :=
  match Release.shortForm? .anyYear ns with
  | none => l
  | some key =>
    let (found, l) := l.openFile files (joinPath directory (fileName key))
    { l with dates := (found.getD []).foldl (addMember ns) l.dates }

end Loading

/-- The dates for the given namespaces. -/
def load (files : FileStore) (directory : String) (namespaces : List String) : Deprecations :=
  (namespaces.foldl (Loading.addNamespace files directory) .start).dates

end Deprecations

end Disclosure
