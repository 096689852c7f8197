import Disclosure.Regex.Depth
import Disclosure.Regex.Escape

/-!
# Bracketed classes

A class in brackets holds characters, ranges, named classes and further bracketed classes, and the
operations `&&`, `--` and `~~` on what stands on both sides of them, grouped from the left.

Brackets that are still open are kept on a stack; every step takes at least one character.
-/

namespace Disclosure.Regex

/-- An operation on classes inside brackets. -/
inductive SetOperation where
  | inter
  | diff
  | symmDiff
deriving DecidableEq

/-- The class that an operation makes of two. -/
def SetOperation.apply : SetOperation → CharClass → CharClass → CharClass
  | .inter, a, b => .inter a b
  | .diff, a, b => .diff a b
  | .symmDiff, a, b => .symmDiff a b

/-- An open bracket: the operation that waits for its right side, and the union read so far. -/
structure Bracket where
  negated : Bool
  waiting : Option (Leveled CharClass × SetOperation)
  union : CharClass
  /-- The depths of the parts of the union. -/
  depths : List Nat

/-- Close a class under changes of case, if the flags say so. -/
def foldIf (f : Flags) (a : CharClass) : CharClass :=
  if !f.caseInsensitive then a
  else if f.unicode then .folded a else .foldedAscii a

namespace Bracket

/-- Add a class to the union. -/
def add (b : Bracket) (a : CharClass) (depth : Nat) : Bracket :=
  { b with union := .union b.union a, depths := depth :: b.depths }

/-- The class on the left of the next operation, or of the end. -/
def left (f : Flags) (b : Bracket) : Leveled CharClass :=
  match b.waiting with
  | none => ⟨b.union, rowDepth b.depths⟩
  | some (a, op) =>
    ⟨op.apply (foldIf f a.value) (foldIf f b.union), max a.depth (rowDepth b.depths) + 1⟩

/-- Go on behind an operation. -/
def operate (f : Flags) (b : Bracket) (op : SetOperation) : Bracket :=
  { b with waiting := some (b.left f, op), union := .none, depths := [] }

/-- The class of a closed bracket. -/
def close (f : Flags) (b : Bracket) : Leveled CharClass :=
  let a := b.left f
  ⟨.negateIf b.negated (foldIf f a.value), a.depth + 1⟩

end Bracket

/-! ### Parts of a class -/

/-- The classes of ASCII that have a name. -/
def posixClass? (name : List Char) : Option CharClass :=
  match String.ofList name with
  | "alnum" => some (.ranges [(48, 57), (65, 90), (97, 122)])
  | "alpha" => some (.ranges [(65, 90), (97, 122)])
  | "ascii" => some (.ranges [(0, 127)])
  | "blank" => some (.ranges [(9, 9), (32, 32)])
  | "cntrl" => some (.ranges [(0, 31), (127, 127)])
  | "digit" => some (.ranges [(48, 57)])
  | "graph" => some (.ranges [(33, 126)])
  | "lower" => some (.ranges [(97, 122)])
  | "print" => some (.ranges [(32, 126)])
  | "punct" => some (.ranges [(33, 47), (58, 64), (91, 96), (123, 126)])
  | "space" => some (.ranges [(9, 13), (32, 32)])
  | "upper" => some (.ranges [(65, 90)])
  | "word" => some (.ranges asciiWords)
  | "xdigit" => some (.ranges [(48, 57), (65, 70), (97, 102)])
  | _ => none

/-- Read a named class of ASCII after its opening bracket: `:name:]` or `:^name:]`. -/
def readPosix? (f : Flags) (s : List Char) : Option (CharClass × List Char) :=
  match s with
  | ':' :: s =>
    let (negated, s) := match s with
      | '^' :: s' => (true, s')
      | _ => (false, s)
    match s.dropWhile (· != ':') with
    | ':' :: ']' :: rest =>
      (posixClass? (s.takeWhile (· != ':'))).map fun a => (.negateIf negated (foldIf f a), rest)
    | _ => none
  | _ => none

/-- Read one character or class. -/
def readMember? (f : Flags) (s : List Char) : Option (Atom × List Char) :=
  match s with
  | [] => none
  | '\\' :: s' => readEscape? f s'
  | c :: s' => some (.char c, s')

/-- The class of a member. A condition on a place is none, nor is a character without a byte. -/
def Atom.toClass? (f : Flags) : Atom → Option CharClass
  | .char c => if f.unicode || decide (c.toNat < 128) then some (.single c) else none
  | .set a => some a
  | .place _ => none

/-- Read a character, a class or a range. A hyphen in front of a bracket stands for itself. -/
def readRange? (f : Flags) (s : List Char) : Option (CharClass × List Char) := do
  let (first, rest) ← readMember? f s
  let rest := skip f rest
  match rest with
  | [] => none
  | '-' :: after =>
    match (skip f after).head? with
    | some ']' | some '-' => return (← first.toClass? f, rest)
    | none => none
    | some _ =>
      let (last, rest) ← readMember? f (skip f after)
      match first, last with
      | .char a, .char b =>
        let _ ← first.toClass? f
        let _ ← last.toClass? f
        if a.toNat ≤ b.toNat then some (.ranges [(a.toNat, b.toNat)], rest) else none
      | _, _ => none
  | _ => return (← first.toClass? f, rest)

/-- Read the hyphens that stand for themselves at the start of a class. -/
def readHyphens (f : Flags) (b : Bracket) : List Char → Bracket × List Char
  | [] => (b, [])
  | c :: s =>
    if c = '-' then readHyphens f (b.add (.single '-') 0) s
    else if f.verbose && Unicode.isBlank c then readHyphens f b s
    else (b, c :: s)

/-- Read the start of a class after its bracket. A bracket that comes first stands for itself. -/
def openBracket? (f : Flags) (s : List Char) : Option (Bracket × List Char) :=
  let s := skip f s
  let (negated, s) := match s with
    | '^' :: s' => (true, skip f s')
    | _ => (false, s)
  let (b, s) := readHyphens f ⟨negated, none, .none, []⟩ s
  match s with
  | [] => none
  | ']' :: s' =>
    if b.union = .none then
      let rest := skip f s'
      if rest.isEmpty then none else some (b.add (.single ']') 0, rest)
    else some (b, s)
  | _ => some (b, s)

/-! ### Whole classes -/

/-- A step of reading a class: the bracket is continued, another is opened, or it is closed. -/
inductive BracketStep where
  | more (b : Bracket) (rest : List Char)
  | nested (inner : Bracket) (rest : List Char)
  | closed (rest : List Char)

/-- Read the next part of the class in the bracket `b`. -/
def bracketStep? (f : Flags) (b : Bracket) (s : List Char) : Option BracketStep :=
  match s with
  | [] => none
  | ']' :: s' => some (.closed s')
  | '[' :: s' =>
    match readPosix? f s' with
    | some (a, rest) => some (.more (b.add a 0) rest)
    | none => (openBracket? f s').map fun (inner, rest) => .nested inner rest
  | '&' :: '&' :: s' => some (.more (b.operate f .inter) s')
  | '-' :: '-' :: s' => some (.more (b.operate f .diff) s')
  | '~' :: '~' :: s' => some (.more (b.operate f .symmDiff) s')
  | _ => (readRange? f s).map fun (a, rest) => .more (b.add a 0) rest

/-- Read a class up to its closing bracket, inside the open brackets of `outer`. -/
def readBracket? (f : Flags) (outer : List Bracket) (b : Bracket) (s : List Char) :
    Option (Leveled CharClass × List Char) :=
  match bracketStep? f b (skip f s) with
  | none => none
  | some (.more b rest) =>
    if rest.length < s.length then readBracket? f outer b rest else none
  | some (.nested inner rest) =>
    if rest.length < s.length then readBracket? f (b :: outer) inner rest else none
  | some (.closed rest) =>
    let a := b.close f
    match outer with
    | [] => if f.unicode || a.value.isAscii then some (a, rest) else none
    | b :: outer =>
      if rest.length < s.length then readBracket? f outer (b.add a.value a.depth) rest else none
termination_by s.length

/-- Read a class after its opening bracket. -/
def readClass? (f : Flags) (s : List Char) : Option (Leveled CharClass × List Char) := do
  let (b, rest) ← openBracket? f s
  readBracket? f [] b rest

end Disclosure.Regex
