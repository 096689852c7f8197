import Disclosure.Text.Trim

/-!
# Paths

The path of a file in a directory.
-/

namespace Disclosure

/-- Whether a path does not depend on the directory that it is looked up from. -/
def isAbsolutePath (path : String) : Bool :=
  Text.startsWith "/" path

/-- The path of a name below a directory. An absolute name stands for itself. -/
def joinPath (directory name : String) : String :=
  if isAbsolutePath name || directory.isEmpty then name
  else if Text.endsWith "/" directory then directory ++ name
  else directory ++ "/" ++ name

/-- The parts of a path between its slashes. -/
def pathParts (path : String) : List String :=
  (Text.splitAt (· == '/') path.toList).map String.ofList

/-- Whether a part of a path stays in the directory that it is looked up from. -/
def staysInPlace (part : String) : Bool :=
  part == "" || part == "."

/-- The part of a path that leads to the directory above. -/
def parentPart : String := ".."

/-- Whether a text may be handed over as a path: none of its bytes is zero. -/
def isPath (path : String) : Bool :=
  path.toList.all (· != '\x00')

/-- Whether a text may be the name of a file: it has at most 255 bytes, none of them zero. -/
def isFileName (name : String) : Bool :=
  decide (name.utf8ByteSize ≤ 255) && isPath name

end Disclosure
