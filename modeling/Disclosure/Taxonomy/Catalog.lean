import Disclosure.File.Cache
import Disclosure.Token.Group

/-!
# Errors in catalogs

Catalogs are documents about taxonomies. A catalog may have the wrong form, hold patterns that
cannot be read or groups that cannot be expanded, or be missing from its place.
-/

namespace Disclosure

/-- A catalog of the wrong form. -/
inductive CatalogError where
  | pattern (key : String)
  | shape (key expected : String)
  | notJson
  | group (e : GroupError)

/-- The wording of an error, where it is fixed. -/
def CatalogError.message? : CatalogError → Option String
  | .pattern _ => none
  | .shape key expected => some (key ++ " must be " ++ expected)
  | .notJson => none
  | .group e => some e.message

/-- A resource that cannot be loaded. -/
inductive ResourceError where
  | cache (e : CacheError)
  | notAnObject (path : String)
  | catalog (e : CatalogError)

/-- The wording of the error about a file that holds no object. -/
def notAnObjectMessage (path : String) : String :=
  "Cache file " ++ path ++ " must hold a JSON object"

namespace CatalogError

/-- The value in the text of a catalog. -/
def readText (s : String) : Except CatalogError Json :=
  match Json.ofText s with
  | .ok v => .ok v
  | .error _ => .error .notJson

/-- The members of a value that has to be an object. -/
def needMembers (key expected : String) (v : Option Json) : Except CatalogError Json.Members :=
  match v with
  | some (.obj ms) => .ok ms
  | _ => .error (.shape key expected)

end CatalogError

end Disclosure
