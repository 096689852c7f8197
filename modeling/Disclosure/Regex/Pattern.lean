import Disclosure.Regex.Bracket
import Disclosure.Regex.Match
import Disclosure.Text.Trim

/-!
# Patterns

The text of a pattern is read into a regular expression. Groups that are still open are kept on a
stack; every step takes at least one character.
-/

namespace Disclosure

/-- A regular expression with the text that it was read from. -/
structure Regex where
  pattern : String
  node : Regex.Node

namespace Regex

instance : Inhabited Regex where
  default := ⟨"", .empty⟩

/-! ### Open groups -/

/--
An open group: its name, the flags in force before it, its finished alternatives, and the parts of
the current one, both last one first. A part that only sets flags is `none`.
-/
structure Group where
  name : Option String
  outerFlags : Flags
  branches : List (Leveled Node)
  parts : List (Leveled (Option Node))

namespace Group

/-- The alternative read so far. -/
def branch (g : Group) : Leveled Node :=
  ⟨.seqOf (g.parts.reverse.filterMap (·.value)), rowDepth (g.parts.map (·.depth))⟩

/-- Add a part. -/
def add (g : Group) (a : Node) (depth : Nat) : Group :=
  { g with parts := ⟨some a, depth⟩ :: g.parts }

/-- Begin the next alternative. -/
def split (g : Group) : Group :=
  { g with branches := g.branch :: g.branches, parts := [] }

/-- The expression of a closed group. -/
def close (g : Group) : Leveled Node :=
  let branches := g.branch :: g.branches
  let body := Node.altOf (branches.reverse.map (·.value))
  let node := match g.name with
    | none => body
    | some name => body.named name
  ⟨node, rowDepth (branches.map (·.depth))⟩

end Group

/-- What is known while a pattern is read. -/
structure State where
  flags : Flags
  names : List String
  current : Group
  outer : List Group

/-- Add a part to the innermost group. -/
def State.add (st : State) (a : Node) (depth : Nat) : State :=
  { st with current := st.current.add a depth }

/-! ### Repetitions -/

/-- The last part of an alternative, which a repetition applies to, and the parts before it. -/
def takeLast? (parts : List (Leveled (Option Node))) :
    Option (Leveled Node × List (Leveled (Option Node))) :=
  match parts with
  | ⟨some a, depth⟩ :: rest => some (⟨a, depth⟩, rest)
  | _ => none

/-- Repeat the last part. -/
def State.repeat? (st : State) (lo : Nat) (hi : Option Nat) (lazy : Bool) : Option State := do
  let (a, rest) ← takeLast? st.current.parts
  let greedy := lazy == st.flags.swapGreed
  let part := ⟨some (.times lo hi greedy a.value), a.depth + 1⟩
  return { st with current := { st.current with parts := part :: rest } }

/-- Read the question mark that makes a repetition as short as possible. -/
def readLazy (s : List Char) : Bool × List Char :=
  match s with
  | '?' :: s' => (true, s')
  | _ => (false, s)

/-- Read a count below `2 ^ 32`, with white space on both sides. -/
def readCount? (f : Flags) (s : List Char) : Option (Nat × List Char) :=
  let rec digits (n : Nat) (any : Bool) : List Char → Option (Nat × List Char)
    | [] => none
    | c :: s =>
      if isDigit c then digits (10 * n + digitValue c) true s
      else if f.verbose && Unicode.isBlank c then digits n any s
      else if any then some (n, c :: s)
      else none
  match digits 0 false (Text.trimLeft s) with
  | some (n, rest) => if n < twoTo 32 then some (n, skip f (Text.trimLeft rest)) else none
  | none => none

/-- Read the bounds of a repetition after the opening brace: `n}`, `n,}` or `n,m}`. -/
def readBounds? (f : Flags) (s : List Char) : Option (Nat × Option Nat × List Char) := do
  let (lo, rest) ← readCount? f (skip f s)
  match rest with
  | '}' :: rest => return (lo, some lo, rest)
  | ',' :: rest =>
    match skip f rest with
    | '}' :: rest => return (lo, none, rest)
    | rest =>
      let (hi, rest) ← readCount? f rest
      match rest with
      | '}' :: rest => if lo ≤ hi then some (lo, some hi, rest) else none
      | _ => none
  | _ => none

/-! ### Groups -/

/-- Whether a character may occur in the name of a group. -/
def isNameChar (first : Bool) (c : Char) : Bool :=
  c == '_' || Unicode.isAlphabetic c ||
    !first && (c == '.' || c == '[' || c == ']' || Unicode.isDecimalDigit c ||
      Unicode.otherNumbers.contains c)

/-- Whether a text is the name of a group. -/
def isName (s : List Char) : Bool :=
  match s with
  | [] => false
  | c :: rest => isNameChar true c && rest.all (isNameChar false)

/-- Open a group. -/
def State.push (st : State) (name : Option String) (flags : Flags) : State :=
  { flags
    names := name.toList ++ st.names
    current := ⟨name, st.flags, [], []⟩
    outer := st.current :: st.outer }

/-- Close the innermost group. -/
def State.pop? (st : State) : Option State :=
  match st.outer with
  | [] => none
  | g :: outer =>
    let a := st.current.close
    some { st with
      flags := st.current.outerFlags
      current := g.add a.value (a.depth + 1)
      outer }

/-- Open a group with a name, which is new. -/
def openNamed? (st : State) (s : List Char) : Option (State × List Char) :=
  let name := s.takeWhile (· != '>')
  match s.dropWhile (· != '>') with
  | [] => none
  | _ :: rest =>
    if isName name && !st.names.contains (String.ofList name) then
      some (st.push (some (String.ofList name)) st.flags, rest)
    else none

/-- Read flags, and open a group with them or set them for the rest of this one. -/
def openFlags? (st : State) (s : List Char) : Option (State × List Char) :=
  match readFlags st.flags false [] s with
  | some (flags, ':' :: rest) => some (st.push none flags, rest)
  | some (flags, ')' :: rest) =>
    let parts := ⟨none, 0⟩ :: st.current.parts
    some ({ st with flags, current := { st.current with parts } }, rest)
  | _ => none

/-- Read what follows an opening parenthesis: a kind of group, or flags for the rest of this one. -/
def openGroup? (st : State) (s : List Char) : Option (State × List Char) :=
  match skip st.flags s with
  | '?' :: 'P' :: '<' :: s => openNamed? st s
  | '?' :: '<' :: '=' :: _ => none
  | '?' :: '<' :: '!' :: _ => none
  | '?' :: '<' :: s => openNamed? st s
  | '?' :: ')' :: _ => none
  | '?' :: s => openFlags? st s
  | s => some (st.push none st.flags, s)

/-! ### Single characters -/

/-- The expression of one character. -/
def charNode (f : Flags) (c : Char) : Node :=
  .chars (foldIf f (.single c))

/-- The expression of the dot. -/
def dotNode? (f : Flags) : Option Node :=
  if !f.unicode then none
  else if f.dotNewline then some (.chars (.ranges everything))
  else if f.returnNewline then some (.chars (.compl (.ranges [(10, 10), (13, 13)])))
  else some (.chars (.compl (.single '\n')))

/-- The expression of the start of a text or line. -/
def startNode (f : Flags) : Node :=
  .anchor (if !f.multiLine then .textStart else if f.returnNewline then .returnLineStart
    else .lineStart)

/-- The expression of the end of a text or line. -/
def endNode (f : Flags) : Node :=
  .anchor (if !f.multiLine then .textEnd else if f.returnNewline then .returnLineEnd
    else .lineEnd)

/-- The expression of an escape. -/
def atomNode? (f : Flags) : Atom → Option Node
  | .char c => some (charNode f c)
  | .set a => if f.unicode || a.isAscii then some (.chars a) else none
  | .place a => some (.anchor a)

/-! ### Whole patterns -/

/-- Read the next part of a pattern. -/
def step? (st : State) (s : List Char) : Option (State × List Char) :=
  match s with
  | [] => none
  | '(' :: s => openGroup? st s
  | ')' :: s => st.pop?.map (·, s)
  | '|' :: s => some ({ st with current := st.current.split }, s)
  | '[' :: s => (readClass? st.flags s).map fun (a, rest) =>
    (st.add (.chars a.value) a.depth, rest)
  | '?' :: s =>
    let (lazy, rest) := readLazy s
    (st.repeat? 0 (some 1) lazy).map (·, rest)
  | '*' :: s =>
    let (lazy, rest) := readLazy s
    (st.repeat? 0 none lazy).map (·, rest)
  | '+' :: s =>
    let (lazy, rest) := readLazy s
    (st.repeat? 1 none lazy).map (·, rest)
  | '{' :: s => do
    let (lo, hi, rest) ← readBounds? st.flags s
    let (lazy, rest) := readLazy (skip st.flags rest)
    let st ← st.repeat? lo hi lazy
    return (st, rest)
  | '\\' :: s => do
    let (a, rest) ← readEscape? st.flags s
    let n ← atomNode? st.flags a
    return (st.add n 0, rest)
  | '.' :: s => (dotNode? st.flags).map fun n => (st.add n 0, s)
  | '^' :: s => some (st.add (startNode st.flags) 0, s)
  | '$' :: s => some (st.add (endNode st.flags) 0, s)
  | c :: s => some (st.add (charNode st.flags c) 0, s)

/-- Read a pattern to its end. -/
def readPattern? (st : State) (s : List Char) : Option (Leveled Node) :=
  match skip st.flags s with
  | [] => if st.outer.isEmpty then some st.current.close else none
  | c :: s' =>
    match step? st (c :: s') with
    | none => none
    | some (st, rest) => if rest.length < s.length then readPattern? st rest else none
termination_by s.length

/-- The memory, in bytes, that a pattern may take. -/
def weightLimit : Nat := 10 * twoTo 20

/-- Read a pattern under the given flags. There is none if the text is not a pattern. -/
def ofPatternWith? (flags : Flags) (pattern : String) : Option Regex := do
  let a ← readPattern? ⟨flags, [], ⟨none, flags, [], []⟩, []⟩ pattern.toList
  if a.depth ≤ maxDepth && a.value.weight ≤ weightLimit then some ⟨pattern, a.value⟩ else none

/-- Read a pattern. There is none if the text is not a pattern. -/
def ofPattern? (pattern : String) : Option Regex :=
  ofPatternWith? {} pattern

/-- The groups of the preferred match of a text, if there is one. -/
def captures? (re : Regex) (s : String) : Option Captures :=
  search re.node none [] none s.toList

/-- Whether a text has a match. -/
def isMatch (re : Regex) (s : String) : Bool :=
  (re.captures? s).isSome

end Regex

end Disclosure
