import Disclosure.Json.Document
import Disclosure.Text.Quoted

/-!
# Decoding documents

What a document is expected to hold, and the errors when it holds something else. Decoding goes
through the document in the order of the text and reports the first problem it meets, be it a value
of the wrong kind or the place where reading stopped.
-/

namespace Disclosure.Json

/-- What stands where something else was expected. -/
inductive Kind where
  | null
  | bool (value : Bool)
  | num (value : Number)
  | str (value : String)
  | list
  | object
deriving DecidableEq

/-- A document that is not what was expected. -/
inductive DecodeError where
  | fault (f : Fault)
  | wrongKind (found : Kind) (expected : String)
  | missingField (name : String)
  | unknownField (name : String) (known : List String)
  | unknownVariant (name : String) (known : List String)
  | duplicateField (name : String)
  | wrongLength (length : Nat) (expected : String)
deriving DecidableEq

/-! ### Wording -/

/-- A name in the marks that set it off from the sentence. -/
def marked (name : String) : String :=
  "`" ++ name ++ "`"

namespace Kind

/-- How a kind is named in a message. -/
def text : Kind → String
  | .null => "null"
  | .bool b => "boolean " ++ marked (if b then "true" else "false")
  | .num n =>
    let digits := marked (String.ofList n.text)
    match n with
    | .int _ => "integer " ++ digits
    | .float _ => "floating point " ++ digits
  | .str s => "string " ++ Text.quoted s
  | .list => "sequence"
  | .object => "map"

end Kind

/-- The classes of faults that a report tells apart. -/
inductive Fault.Category where
  | cutShort
  | malformed
deriving DecidableEq

/-- The class of a fault. -/
def Fault.category : Fault → Fault.Category
  | .endOfText => .cutShort
  | .cutNumber => .cutShort
  | .cutWord => .cutShort
  | _ => .malformed

/-- One name, or the list of names to choose from. -/
def choice (names : List String) : String :=
  match names with
  | [name] => marked name
  | _ => "one of " ++ String.intercalate ", " (names.map marked)

/-- The message of an error about the content; faults of the text itself have none. -/
def DecodeError.message? : DecodeError → Option String
  | .fault _ => none
  | .wrongKind found expected => some ("invalid type: " ++ found.text ++ ", expected " ++ expected)
  | .missingField name => some ("missing field " ++ marked name)
  | .unknownField name known =>
    some ("unknown field " ++ marked name ++ ", expected " ++ choice known)
  | .unknownVariant name known =>
    some ("unknown variant " ++ marked name ++ ", expected " ++ choice known)
  | .duplicateField name => some ("duplicate field " ++ marked name)
  | .wrongLength n expected => some (s!"invalid length {n}, expected " ++ expected)

/-! ### Values -/

/-- How deep lists and objects may be nested. -/
def maxDepth : Nat := 127

/-- What is left of a nesting depth inside one more list or object. -/
def deeper (depth : Nat) : Except Fault Nat :=
  match depth with
  | 0 => .error .tooDeep
  | d + 1 => .ok d

/-- The end of a list or object. -/
def atEnd {α : Type} (stop : Option Fault) (a : α) : Except Fault α :=
  match stop with
  | some f => .error f
  | none => .ok a

mutual

/-- The value of a document. A repeated key keeps its first place and takes its last value. -/
def Doc.value (depth : Nat) : Doc → Except Fault Json
  | .broken f => .error f
  | .flawed f => .error f
  | .null => .ok .null
  | .bool b => .ok (.bool b)
  | .num n => .ok (.num n)
  | .str s => .ok (.str s)
  | .arr items stop => do
    let d ← deeper depth
    atEnd stop (.arr (← itemsValue d items))
  | .obj members stop => do
    let d ← deeper depth
    atEnd stop (.obj (← membersValue d [] members))

/-- The values of the items of a list. -/
def itemsValue (depth : Nat) : List Doc → Except Fault (List Json)
  | [] => .ok []
  | d :: ds => do
    let v ← d.value depth
    return v :: (← itemsValue depth ds)

/-- The members of an object, added to those before them. -/
def membersValue (depth : Nat) (before : Members) :
    List (Except Fault String × Doc) → Except Fault Members
  | [] => .ok before
  | (key, d) :: ms => do
    let k ← key
    let v ← d.value depth
    membersValue depth (before.put k v) ms

end

mutual

/-- Check that a value may be skipped: that reading did not stop inside it. -/
def Doc.skip : Doc → Except Fault Unit
  | .broken .cutNumber => .error .malformed
  | .broken f => .error f
  | .arr items stop => do
    skipItems items
    atEnd stop ()
  | .obj members stop => do
    skipMembers members
    atEnd stop ()
  | _ => .ok ()

/-- Skip the items of a list. -/
def skipItems : List Doc → Except Fault Unit
  | [] => .ok ()
  | d :: ds => do
    d.skip
    skipItems ds

/-- Skip the members of an object. -/
def skipMembers : List (Except Fault String × Doc) → Except Fault Unit
  | [] => .ok ()
  | (_, d) :: ms => do
    d.skip
    skipMembers ms

end

mutual

/-- A value as a document. -/
def toDoc : Json → Doc
  | .null => .null
  | .bool b => .bool b
  | .num n => .num n
  | .str s => .str s
  | .arr items => .arr (itemsDoc items) none
  | .obj members => .obj (membersDoc members) none

/-- The items of a list as documents. -/
def itemsDoc : List Json → List Doc
  | [] => []
  | v :: vs => v.toDoc :: itemsDoc vs

/-- The members of an object as documents. -/
def membersDoc : List (String × Json) → List (Except Fault String × Doc)
  | [] => []
  | (k, v) :: ms => (.ok k, v.toDoc) :: membersDoc ms

end

/-! ### Expectations -/

/-- A decoder takes the nesting depth that is left and a document. -/
abbrev Decoder (α : Type) := Nat → Doc → Except DecodeError α

/-- Lift a result about the text itself. -/
def lift {α : Type} : Except Fault α → Except DecodeError α
  | .ok a => .ok a
  | .error f => .error (.fault f)

/-- What kind of value a document is, if it has one. -/
def Doc.kind : Doc → Except Fault Kind
  | .broken f => .error f
  | .flawed f => .error f
  | .null => .ok .null
  | .bool b => .ok (.bool b)
  | .num n => .ok (.num n)
  | .str s => .ok (.str s)
  | .arr _ _ => .ok .list
  | .obj _ _ => .ok .object

/-- Reject a document of the wrong kind. -/
def Doc.reject {α : Type} (d : Doc) (expected : String) : Except DecodeError α :=
  match d.kind with
  | .ok k => .error (.wrongKind k expected)
  | .error f => .error (.fault f)

/-- Any value. -/
def decodeValue : Decoder Json := fun depth d => lift (d.value depth)

/-- A string, described as `expected`. -/
def decodeString (expected : String) : Decoder String
  | _, .str s => .ok s
  | _, d => d.reject expected

/-- A truth value. -/
def decodeBool : Decoder Bool
  | _, .bool b => .ok b
  | _, d => d.reject "a boolean"

/-- Nothing for `null`, and otherwise what `decode` gives. -/
def decodeOption {α : Type} (decode : Decoder α) : Decoder (Option α)
  | _, .null => .ok none
  | depth, d => (decode depth d).map some

/-- An object, with its keys in document order. -/
def decodeTable : Decoder Members
  | depth, .obj members stop => lift do
    let d ← deeper depth
    atEnd stop (← membersValue d [] members)
  | _, d => d.reject "a map"

/-- A field that must not have been met before. -/
def decodeOnce {α : Type} (name : String) (before : Option α) (decode : Decoder α) :
    Decoder (Option α)
  | depth, d => if before.isSome then .error (.duplicateField name) else (decode depth d).map some

/-- The value `null`. -/
def decodeUnit : Decoder Unit
  | _, .null => .ok ()
  | _, d => d.reject "unit"

/-- A list, each item decoded by `decode`. -/
def decodeList {α : Type} (decode : Decoder α) : Decoder (List α)
  | depth, .arr items stop => do
    let d ← lift (deeper depth)
    let as ← items.mapM (decode d)
    lift (atEnd stop as)
  | _, d => d.reject "a sequence"

/-- Decode a whole text. Only blanks may follow the document. -/
def decodeText {α : Type} (decode : Decoder α) (s : String) : Except DecodeError α := do
  let reading := read s.toList
  let a ← decode maxDepth reading.doc
  lift (atEnd reading.trailing a)

/-- The value of a text. -/
def ofText (s : String) : Except DecodeError Json :=
  decodeText decodeValue s

end Disclosure.Json
