import Disclosure.Fact.ConceptSet
import Disclosure.Fact.Context
import Disclosure.Regex.Pattern
import Disclosure.Taxonomy.Catalog
import Disclosure.Taxonomy.Namespace

/-!
# Expected signs

Concepts whose values are expected not to be negative, and the members that lift the expectation.
A catalog lists names under short forms of namespaces: what it lists for a year goes before what it
lists for all years.
-/

namespace Disclosure

/-- The names that a catalog lists for one namespace. -/
structure SignEntries where
  concepts : List String
  members : List String
  /-- Parts of the names of members, as patterns. -/
  fragments : List String
  /-- The members excluded on each axis. -/
  axes : List (String × List String)

namespace SignEntries

/-- No names. -/
def empty : SignEntries := ⟨[], [], [], []⟩

/-- Whether there are no names. An axis without members does not count. -/
def isEmpty (e : SignEntries) : Bool :=
  e.concepts.isEmpty && e.members.isEmpty && e.fragments.isEmpty && e.axes.all (·.2.isEmpty)

/-- The name that stands for all members of an axis. -/
def anyMember : String := "*"

/-- Whether a name is among those excluded on an axis. -/
def excludesOnAxis (e : SignEntries) (axis member : String) : Bool :=
  (e.axes.lookup axis).any (·.contains member)

end SignEntries

/-- The entries of a catalog for the namespaces of a submission. -/
structure SignExpectations where
  entries : List (String × SignEntries)
  /-- The pattern that joins all parts of names, regardless of case. -/
  fragments : Option Regex

namespace SignExpectations

/-- The file of the catalog. -/
def fileName : String := "signwarnings.json"

/-- The sections of a catalog, where they are present. -/
structure Sections where
  concepts : Option Json.Members
  members : Option Json.Members
  fragments : Option Json.Members
  axes : Option Json.Members

/-- A section of a catalog. -/
def readSection (catalog : Json.Members) (key : String) :
    Except CatalogError (Option Json.Members) :=
  match catalog.get? key with
  | none => .ok none
  | some v => (CatalogError.needMembers key "an object keyed by namespace" v).map some

/-- The section of the parts of names. -/
def fragmentsKey : String := "excludedMemberStrings"

/-- The sections of a catalog. -/
def readSections (catalog : Json.Members) : Except CatalogError Sections := do
  let concepts ← readSection catalog "conceptNames"
  let members ← readSection catalog "excludedMemberNames"
  let fragments ← readSection catalog fragmentsKey
  let axes ← readSection catalog "excludedAxesMembers"
  return { concepts, members, fragments, axes }

/-- A list of names, reported under `key` if it is none. -/
def readNames (key : String) (v : Json) : Except CatalogError (List String) :=
  match v.items?.bind (·.mapM Json.string?) with
  | some names => .ok names
  | none => .error (.shape key "a list of names")

/-- The names in a section under a key. -/
def readListed (s : Option Json.Members) (key : String) : Except CatalogError (List String) :=
  match s.bind (·.get? key) with
  | none => .ok []
  | some v => readNames key v

/-- The axes in a section under a key, with their members. -/
def readAxes (s : Option Json.Members) (key : String) :
    Except CatalogError (List (String × List String)) :=
  match s.bind (·.get? key) with
  | none => .ok []
  | some v => do
    let axes ← CatalogError.needMembers key "an object of axis members" v
    axes.mapM fun m => return (m.1, ← readNames m.1 m.2)

/-- The names in all sections under a key. -/
def readEntries (s : Sections) (key : String) : Except CatalogError SignEntries := do
  let concepts ← readListed s.concepts key
  let members ← readListed s.members key
  let fragments ← readListed s.fragments key
  let axes ← readAxes s.axes key
  return { concepts, members, fragments, axes }

/-- The names for a namespace: those for its year, or else those for all years. -/
def entriesFor (s : Sections) (ns : String) : Except CatalogError SignEntries :=
  match Release.ofNamespace? ns with
  | none => .ok .empty
  | some r => do
    let e ← readEntries s r.withYear
    if e.isEmpty then readEntries s r.anyYear else return e

/-- The pattern that joins parts of names. -/
def joinFragments (fragments : Tokens) : Except CatalogError (Option Regex) :=
  if fragments.isEmpty then .ok none
  else
    let pattern := String.intercalate "|" fragments.items
    match Regex.ofPatternWith? { caseInsensitive := true } pattern with
    | some re => .ok (some re)
    | none => .error (.pattern fragmentsKey)

/-- The catalog in a value, for the given namespaces. -/
def ofJson (v : Json) (namespaces : List String) : Except CatalogError SignExpectations := do
  let sections ← readSections (← CatalogError.needMembers "sign warnings" "an object" v)
  let entries ← namespaces.mapM fun ns => return (ns, ← entriesFor sections ns)
  let fragments ← joinFragments (.ofList (entries.flatMap (·.2.fragments)))
  return { entries, fragments }

/-- The catalog in the file of a directory, if there is one. -/
def load (files : FileStore) (directory : String) (namespaces : List String) :
    Except ResourceError (Option SignExpectations) :=
  match files.loadValue (joinPath directory fileName) with
  | .error e => .error (.cache e)
  | .ok none => .ok none
  | .ok (some v) => ((ofJson v namespaces).map some).mapError .catalog

/-! ### Queries -/

/-- The concepts that are expected not to be negative. -/
def concepts (x : SignExpectations) : ConceptSet :=
  .ofList (x.entries.flatMap fun (ns, e) => e.concepts.map (⟨ns, ·⟩))

/-- Whether a concept is expected not to be negative. -/
def expectsNonNegative (x : SignExpectations) (c : Concept) : Bool :=
  x.entries.any fun (ns, e) => ns == c.ns && e.concepts.contains c.name

/-- Whether a member is excluded, by its name or by a part of it. -/
def excludes (x : SignExpectations) (c : Concept) : Bool :=
  (x.entries.any fun (ns, e) => ns == c.ns && e.members.contains c.name) ||
    x.fragments.any (·.isMatch c.name)

/-- Whether the entries of a namespace exclude a member on an axis. -/
def entryExcludes (axis : Concept) (member : Member) (entry : String × SignEntries) : Bool :=
  entry.1 == axis.ns &&
    (entry.2.excludesOnAxis axis.name SignEntries.anyMember ||
      match member with
      | .explicit c => c.ns == entry.1 && entry.2.excludesOnAxis axis.name c.name
      | .typed _ => false)

/-- Whether a member is excluded on an axis. -/
def excludesOn (x : SignExpectations) (axis : Concept) (member : Member) : Bool :=
  x.entries.any (entryExcludes axis member)

/-- Whether a dimension lifts the expectation. -/
def liftedBy (x : SignExpectations) (d : Dimension) : Bool :=
  x.excludesOn d.axis d.member ||
    match d.member with
    | .explicit c => x.excludes c
    | .typed _ => false

/-- Whether a context lifts the expectation. -/
def liftsExpectation (x : SignExpectations) (c : Context) : Bool :=
  c.dims.any x.liftedBy

end SignExpectations

end Disclosure
