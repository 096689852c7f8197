import Disclosure.Regex.Pattern
import Disclosure.Taxonomy.Catalog

/-!
# Axis replacements

Custom axes that stand in for standard ones are known by their names. A catalog gives a pattern of
names for each standard axis. All patterns are joined into one, whose groups tell which matched.
-/

namespace Disclosure

/-- A catalog of standard axes with the patterns of the names that imitate them. -/
structure AxisReplacements where
  /-- The standard axes in document order, each with the name of its group. -/
  axes : List (String × String)
  joined : Option Regex

namespace AxisReplacements

/-- Keys of a catalog that do not name an axis. -/
def skippedKeys : List String := ["#", "copyright", "description"]

/-- What the catalog is called in messages. -/
def title : String := "axis replacements"

/-- The pattern of an axis. It must be one on its own, so that an error names the axis. -/
def readMember (m : String × Json) : Except CatalogError (String × String) :=
  match m.2 with
  | .str pattern =>
    match Regex.ofPattern? pattern with
    | some _ => .ok (m.1, pattern)
    | none => .error (.pattern m.1)
  | _ => .error (.shape m.1 "a pattern string")

/-- The name of the group at a position. -/
def groupName (position : Nat) : String :=
  "_" ++ String.ofList (decimalDigits position)

/-- A pattern for the whole of a name, in a group. -/
def wholeNamed (name pattern : String) : String :=
  "(?P<" ++ name ++ ">^(?:" ++ pattern ++ ")$)"

/-- Read a pattern that joins others. -/
def readJoined (alternatives : List String) : Except CatalogError (Option Regex) :=
  if alternatives.isEmpty then .ok none
  else
    match Regex.ofPattern? (String.intercalate "|" alternatives) with
    | some re => .ok (some re)
    | none => .error (.pattern title)

/-- The catalog in a value. -/
def ofJson (v : Json) : Except CatalogError AxisReplacements := do
  let members ← CatalogError.needMembers title "an object" v
  let entries ← (members.filter fun m => !skippedKeys.contains m.1).mapM readMember
  let named := entries.mapIdx fun i e => (groupName i, e)
  let joined ← readJoined (named.map fun (name, e) => wholeNamed name e.2)
  return { axes := named.map fun (name, e) => (name, e.1), joined }

/-- The catalog in a text. -/
def ofText (s : String) : Except CatalogError AxisReplacements := do
  ofJson (← CatalogError.readText s)

/-- The number of standard axes. -/
def size (c : AxisReplacements) : Nat :=
  c.axes.length

/-- Whether there are no standard axes. -/
def isEmpty (c : AxisReplacements) : Bool :=
  c.axes.isEmpty

/-- The standard axis that a name imitates. -/
def imitated? (c : AxisReplacements) (name : String) : Option String := do
  let re ← c.joined
  let captures ← re.captures? name
  let (_, axis) ← c.axes.find? fun a => (captures.text? a.1).isSome
  return axis

end AxisReplacements

end Disclosure
