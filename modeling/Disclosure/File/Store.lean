import Disclosure.File.Path

/-!
# File stores

The files of a tree, each under the list of names that leads to it from the root, and the directory
that relative paths start from. Directories exist where a file lies below them, where they are
listed themselves, and on the way to the working directory.
-/

namespace Disclosure

/-- What a place in a store holds. -/
inductive FileEntry where
  | text (content : String)
  /-- A file that holds no text. -/
  | binary
  | directory
deriving DecidableEq

/-- A place in a store: the names of the directories above it, and its own name. -/
abbrev Place := List String

/-- The entries of a tree of files, and the place in it that relative paths start from. -/
structure FileStore where
  entries : List (Place × FileEntry)
  workingDirectory : Place

/-- A file that cannot be read. -/
inductive ReadError where
  | missing
  | unreadable
deriving DecidableEq

namespace FileStore

/-- A store without files. -/
def empty (workingDirectory : Place) : FileStore := ⟨[], workingDirectory⟩

/-- The entry at a place. -/
def entry? (s : FileStore) (place : Place) : Option FileEntry :=
  s.entries.lookup place

/-- Set the entry at a place. -/
def put (s : FileStore) (place : Place) (e : FileEntry) : FileStore :=
  { s with entries := (place, e) :: s.entries.filter (·.1 != place) }

/-- Whether a place is a directory. -/
def isDirectory (s : FileStore) (place : Place) : Bool :=
  place.isPrefixOf s.workingDirectory || s.entries.any fun e =>
    place.isPrefixOf e.1 && (e.1 != place || e.2 == .directory)

/-- Whether there is anything at a place. -/
def exists? (s : FileStore) (place : Place) : Bool :=
  s.isDirectory place || (s.entry? place).isSome

/--
Follow the parts of a path. Every part but the last must lead to a directory, and so must the last
if it stays in place or leads up. The root is the directory above itself.
-/
def follow (s : FileStore) (here : Place) : List String → Except ReadError Place
  | [] => .ok here
  | part :: parts =>
    if !s.isDirectory here then .error (if s.exists? here then .unreadable else .missing)
    else if staysInPlace part then follow s here parts
    else if part == parentPart then follow s here.dropLast parts
    else if !isFileName part then .error .unreadable
    else follow s (here ++ [part]) parts

/-- The directory that a path starts from: the root, or the working directory. -/
def start (s : FileStore) (path : String) : Place :=
  if isAbsolutePath path then [] else s.workingDirectory

/-- The place that a path leads to. -/
def locate (s : FileStore) (path : String) : Except ReadError Place :=
  if path.isEmpty then .error .missing
  else if !isPath path then .error .unreadable
  else s.follow (s.start path) (pathParts path)

/-- The text of the file at a path. -/
def read (s : FileStore) (path : String) : Except ReadError String := do
  let place ← s.locate path
  match s.entry? place with
  | some (.text content) => .ok content
  | some _ => .error .unreadable
  | none => .error (if s.isDirectory place then .unreadable else .missing)

/-- The name that a directory shows for an entry, if the entry lies below it. -/
def nameBelow? (place : Place) (e : Place × FileEntry) : Option String :=
  if place.isPrefixOf e.1 then (e.1.drop place.length).head? else none

/-- The names in the directory at a path, in order and each once. -/
def list (s : FileStore) (path : String) : Except ReadError (List String) := do
  let place ← s.locate path
  if s.isDirectory place then
    .ok ((s.entries.filterMap (nameBelow? place)).mergeSort (fun a b => decide (a ≤ b))).eraseDups
  else .error .unreadable

end FileStore

end Disclosure
