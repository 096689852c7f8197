import Disclosure.Taxonomy.Catalog

/-!
# Compatible taxonomies

Which releases may be used together. A catalog lists for each release those that it goes with; the
lists may refer to classes of releases.
-/

namespace Disclosure

/-- The releases of a catalog, each with those that it goes with. -/
structure Compatibility where
  /-- In document order. -/
  compatible : List (String × Selection)

namespace Compatibility

/-- The table of classes of releases. -/
def classesKey : String := "taxonomy-classes"

/-- The table of releases. -/
def compatibleKey : String := "compatible-classes"

/-- The releases that an entry names. Anything but a list names none. -/
def readEntry (r : Resolver) (raw : Json) : Except CatalogError (Selection × Resolver) :=
  if raw.isList then
    match r.resolve raw with
    | (.ok tokens, r) => .ok (tokens, r)
    | (.error e, _) => .error (.group e)
  else .ok (.none, r)

/-- The entries of a table, all sharing one resolver. -/
def readEntries (r : Resolver) : Json.Members → Except CatalogError (List (String × Selection))
  | [] => .ok []
  | (release, raw) :: ms => do
    let (tokens, r) ← readEntry r raw
    return (release, tokens) :: (← readEntries r ms)

/-- The classes of a catalog. There may be none. -/
def readClasses (v : Json) : Except CatalogError Json.Members :=
  match v.get? classesKey with
  | none => .ok []
  | some classes => CatalogError.needMembers classesKey "an object" classes

/-- The catalog in a value. -/
def ofJson (v : Json) : Except CatalogError Compatibility := do
  let classes ← readClasses v
  let entries ← CatalogError.needMembers compatibleKey "an object" (v.get? compatibleKey)
  return ⟨← readEntries (.ofTable classes) entries⟩

/-- The catalog in a text. -/
def ofText (s : String) : Except CatalogError Compatibility := do
  ofJson (← CatalogError.readText s)

/-- The releases that a release goes with. -/
def with? (c : Compatibility) (release : String) : Option Selection :=
  c.compatible.lookup release

/-- Whether a release goes with another. -/
def goesWith (c : Compatibility) (release other : String) : Bool :=
  (c.with? release).any (·.selects other)

/-- The releases that an entry is about: its own, and those listed. -/
def namedBy (e : String × Selection) : List String :=
  e.1 :: ((e.2.listed?.map (·.items)).getD [])

/-- All releases that the catalog names, in order. -/
def named (c : Compatibility) : List String :=
  ((c.compatible.flatMap namedBy).mergeSort fun a b => decide (a ≤ b)).eraseDups

/-- Whether the catalog names a release. -/
def isNamed (c : Compatibility) (release : String) : Bool :=
  (c.compatible.flatMap namedBy).contains release

end Compatibility

end Disclosure
