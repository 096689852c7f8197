import Disclosure.File.Store
import Disclosure.Json.Decode
import Disclosure.Json.Sorted

/-!
# Cache files

Derived data is kept in files of compact JSON text with sorted keys, so that equal data gives equal
files.
-/

namespace Disclosure

/-- A cache file that cannot be read or written. -/
inductive CacheError where
  | io
  | json (e : Json.DecodeError)
  /-- The finished file cannot be given its name. -/
  | persist

namespace FileStore

/-- The value in a cache file, if the file exists. -/
def loadValue (s : FileStore) (path : String) : Except CacheError (Option Json) :=
  match s.read path with
  | .error .missing => .ok none
  | .error .unreadable => .error .io
  | .ok content =>
    match Json.ofText content with
    | .ok v => .ok (some v)
    | .error e => .error (.json e)

/-- The directory that a path's last name is in, and that name. -/
def splitPath (path : String) : List String × Option String :=
  let parts := (pathParts path).filter fun part => !staysInPlace part
  (parts.dropLast, parts.getLast?)

/-- Whether the end of a path is a name, and not a slash or a way to stay in place. -/
def endsInName (path : String) : Bool :=
  match (pathParts path).getLast? with
  | some part => !staysInPlace part && part != parentPart && isFileName part
  | none => false

/-- Write a value to a cache file. On failure nothing changes. -/
def saveValue (s : FileStore) (path : String) (v : Json) : Except CacheError FileStore :=
  let (above, name) := splitPath path
  match s.follow (s.start path) above with
  | .error _ => .error .io
  | .ok place =>
    if !s.isDirectory place then .error .io
    else
      match name with
      | none => .error .persist
      | some name =>
        let target := place ++ [name]
        if !isPath path || !endsInName path || s.isDirectory target then .error .persist
        else .ok (s.put target (.text v.sorted.text))

end FileStore

end Disclosure
