import Disclosure.Number.Digits
import Disclosure.Regex.Flags
import Disclosure.Regex.Node
import Disclosure.Unicode.Category
import Disclosure.Unicode.Digit
import Disclosure.Unicode.Property
import Disclosure.Unicode.Script

/-!
# Escapes

What a backslash and the characters after it stand for: a character, a class, or a condition on a
place.
-/

namespace Disclosure.Regex

/-- A part of a pattern that stands for one character or one place. -/
inductive Atom where
  | char (c : Char)
  | set (c : CharClass)
  | place (a : Anchor)

/-! ### Named classes -/

/-- The decimal digits of ASCII. -/
def asciiDigits : Unicode.Ranges := [(48, 57)]

/-- The white space of ASCII. -/
def asciiBlanks : Unicode.Ranges := [(9, 13), (32, 32)]

/-- The word characters of ASCII. -/
def asciiWords : Unicode.Ranges := [(48, 57), (65, 90), (95, 95), (97, 122)]

/-- The classes of digits, white space and word characters. -/
def shorthand? (unicode : Bool) (letter : Char) : Option CharClass :=
  match letter with
  | 'd' => some (.ranges (if unicode then Unicode.decimalDigits else asciiDigits))
  | 's' => some (.ranges (if unicode then Unicode.blanks else asciiBlanks))
  | 'w' => some (.ranges (if unicode then Unicode.wordCharacters else asciiWords))
  | _ => none

/-- A property name in lower case, without separators and a leading `is`. -/
def plainName (name : List Char) : String :=
  let lower := name.map fun c =>
    if 65 ≤ c.toNat ∧ c.toNat ≤ 90 then Char.ofNat (c.toNat + 32) else c
  let bare (s : List Char) :=
    s.filter fun c => c != ' ' && c != '_' && c != '-' && decide (c.toNat < 128)
  match lower with
  | 'i' :: 's' :: rest =>
    -- the name of a category may itself begin with these letters
    let r := bare rest
    String.ofList (if r = ['c'] then ['i', 's', 'c'] else r)
  | _ => String.ofList (bare lower)

/-- Every character. -/
def everything : Unicode.Ranges := [(0, 0x10FFFF)]

/-- A general category, or one of the three sets named beside them. -/
def generalCategory? (name : String) : Option CharClass :=
  match name with
  | "any" => some (.ranges everything)
  | "ascii" => some (.ranges [(0, 127)])
  | "assigned" => (Unicode.category? "cn").map fun r => .compl (.ranges r)
  | _ => (Unicode.categoryOrGroup? name).map .ranges

/-- The class that a property name stands for. Three names are those of general categories only. -/
def namedClass? (name : String) : Option CharClass :=
  let property :=
    if ["cf", "sc", "lc"].contains name then none
    else (Unicode.property? name).map .ranges
  property <|> generalCategory? name <|> (Unicode.script? name).map .ranges

/-- The class that a property and its value stand for. -/
def valuedClass? (property value : String) : Option CharClass :=
  if ["gc", "generalcategory"].contains property then generalCategory? value
  else if ["sc", "script"].contains property then (Unicode.script? value).map .ranges
  else none

/-- The class that the text between the braces stands for, and whether it is negated. -/
def propertyClass? (name : List Char) : Option CharClass :=
  let isSeparator (c : Char) := c == ':' || c == '='
  let before := name.takeWhile (!isSeparator ·)
  match name.dropWhile (!isSeparator ·) with
  | [] => namedClass? (plainName name)
  | c :: value =>
    match c, before.reverse with
    | '=', '!' :: property =>
      (valuedClass? (plainName property.reverse) (plainName value)).map .compl
    | _, _ => valuedClass? (plainName before) (plainName value)

/-- Read the name of a property: one letter, or a name in braces. -/
def readProperty? (f : Flags) (s : List Char) : Option (CharClass × List Char) :=
  match skip f s with
  | [] => none
  | '{' :: s =>
    let name := (s.takeWhile (· != '}')).filter fun c => !(f.verbose && Unicode.isBlank c)
    match s.dropWhile (· != '}') with
    | _ :: rest => (propertyClass? name).map (·, rest)
    | [] => none
  | '\\' :: _ => none
  | c :: s => (namedClass? (plainName [c])).map (·, s)

/-! ### Characters by number -/

/-- The value of a hexadecimal digit. -/
def hexValue? (c : Char) : Option Nat :=
  let n := c.toNat
  if 48 ≤ n ∧ n ≤ 57 then some (n - 48)
  else if 65 ≤ n ∧ n ≤ 70 then some (n - 55)
  else if 97 ≤ n ∧ n ≤ 102 then some (n - 87)
  else none

/-- The number written by hexadecimal digits. -/
def hexNumber? (s : List Char) : Option Nat :=
  s.foldlM (fun n c => (hexValue? c).map (16 * n + ·)) 0

/-- The character with a given number. -/
def charOfNat? (n : Nat) : Option Char :=
  if h : n.isValidChar then some (Char.ofNatAux n h) else none

/-- Read exactly `count` hexadecimal digits. -/
def readHexDigits? (f : Flags) : Nat → List Char → Option (List Char × List Char)
  | 0, s => some ([], s)
  | n + 1, s =>
    match skip f s with
    | [] => none
    | c :: s => do
      let (ds, rest) ← readHexDigits? f n s
      return (c :: ds, rest)

/-- Read a character by its number: in braces, or with a fixed count of digits. -/
def readNumber? (f : Flags) (count : Nat) (s : List Char) : Option (Char × List Char) :=
  match skip f s with
  | '{' :: s =>
    let ds := (s.takeWhile (· != '}')).filter fun c => !(f.verbose && Unicode.isBlank c)
    match s.dropWhile (· != '}') with
    | _ :: rest =>
      if ds.isEmpty then none
      else do
        let c ← charOfNat? (← hexNumber? ds)
        return (c, rest)
    | [] => none
  | s => do
    let (ds, rest) ← readHexDigits? f count s
    let n ← hexNumber? ds
    let c ← charOfNat? n
    -- outside Unicode mode two digits name a byte, which is no character from 128 on
    if !f.unicode && count == 2 && 127 < n then none else some (c, rest)

/-! ### Places -/

/-- The word boundary with a given name. -/
def boundaryNamed? (name : List Char) : Option Boundary :=
  match String.ofList name with
  | "start" => some .wordStart
  | "end" => some .wordEnd
  | "start-half" => some .halfStart
  | "end-half" => some .halfEnd
  | _ => none

/-- Whether a character may occur in the name of a word boundary. -/
def isBoundaryLetter (c : Char) : Bool :=
  decide (65 ≤ c.toNat ∧ c.toNat ≤ 90) || decide (97 ≤ c.toNat ∧ c.toNat ≤ 122) || c == '-'

/--
Read what follows the letter of a word boundary: a name in braces, or nothing. Braces that hold no
name belong to a repetition.
-/
def readBoundary? (f : Flags) (s : List Char) : Option (Boundary × List Char) :=
  match s with
  | '{' :: s' =>
    match skip f s' with
    | [] => none
    | c :: rest =>
      if isBoundaryLetter c then
        let spaced (c : Char) := isBoundaryLetter c || (f.verbose && Unicode.isBlank c)
        let name := ((c :: rest).takeWhile spaced).filter isBoundaryLetter
        match (c :: rest).dropWhile spaced with
        | '}' :: rest => (boundaryNamed? name).map (·, rest)
        | _ => none
      else some (.any, s)
  | _ => some (.any, s)

/-! ### Escapes -/

/-- The characters with a meaning in patterns. -/
def metaCharacters : List Char :=
  ['\\', '.', '+', '*', '?', '(', ')', '|', '[', ']', '{', '}', '^', '$', '#', '&', '-', '~']

/-- Whether a character stands for itself after a backslash. -/
def isEscapable (c : Char) : Bool :=
  decide (c.toNat < 128) && !isAsciiWord c && c != '<' && c != '>' || metaCharacters.contains c ||
    c == '_'

/-- The control character that a letter stands for. -/
def controlChar? (c : Char) : Option Char :=
  match c with
  | 'a' => some '\x07'
  | 'f' => some '\x0c'
  | 't' => some '\t'
  | 'n' => some '\n'
  | 'r' => some '\r'
  | 'v' => some '\x0b'
  | _ => none

/-- Read an escape after its backslash. -/
def readEscape? (f : Flags) (s : List Char) : Option (Atom × List Char) :=
  match s with
  | [] => none
  | c :: s =>
    if isEscapable c then some (.char c, s)
    else
      match c with
      | 'x' => (readNumber? f 2 s).map fun (c, rest) => (.char c, rest)
      | 'u' => (readNumber? f 4 s).map fun (c, rest) => (.char c, rest)
      | 'U' => (readNumber? f 8 s).map fun (c, rest) => (.char c, rest)
      | 'd' | 's' | 'w' => (shorthand? f.unicode c).map fun a => (.set a, s)
      | 'D' => (shorthand? f.unicode 'd').map fun a => (.set (.compl a), s)
      | 'S' => (shorthand? f.unicode 's').map fun a => (.set (.compl a), s)
      | 'W' => (shorthand? f.unicode 'w').map fun a => (.set (.compl a), s)
      | 'p' =>
        if f.unicode then
          (readProperty? f s).map fun (a, rest) =>
            (.set (if f.caseInsensitive then .folded a else a), rest)
        else none
      | 'P' =>
        if f.unicode then
          (readProperty? f s).map fun (a, rest) =>
            (.set (.compl (if f.caseInsensitive then .folded a else a)), rest)
        else none
      | 'A' => some (.place .textStart, s)
      | 'z' => some (.place .textEnd, s)
      | 'b' => (readBoundary? f s).map fun (k, rest) => (.place (.boundary k f.unicode), rest)
      | 'B' => some (.place (.boundary .notAny f.unicode), s)
      | '<' => some (.place (.boundary .wordStart f.unicode), s)
      | '>' => some (.place (.boundary .wordEnd f.unicode), s)
      | _ => (controlChar? c).map fun e => (.char e, s)

end Disclosure.Regex
