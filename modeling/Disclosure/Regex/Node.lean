import Disclosure.Regex.CharClass
import Disclosure.Unicode.Word

/-!
# Regular expressions

The syntax tree of a regular expression. A pattern describes places in a text by the characters on
both sides of them, and pieces of text by their characters; the ends of named groups are marked, and
the marks that a match passes tell which groups took part, and where.
-/

namespace Disclosure.Regex

/-- The kinds of word boundary. The half boundaries look at one side only. -/
inductive Boundary where
  | any
  | notAny
  | wordStart
  | wordEnd
  | halfStart
  | halfEnd
deriving DecidableEq

/-- A condition on a place in a text. -/
inductive Anchor where
  | textStart
  | textEnd
  | lineStart
  | lineEnd
  /-- Start of a line, where a carriage return with a newline ends a line as well. -/
  | returnLineStart
  | returnLineEnd
  | boundary (kind : Boundary) (unicode : Bool)
deriving DecidableEq

/-- An end of a group with a name. -/
inductive Mark where
  | opens (name : String)
  | closes (name : String)
deriving DecidableEq

/-- The name of the group. -/
def Mark.name : Mark → String
  | opens name | closes name => name

/-- A regular expression. -/
inductive Node where
  | empty
  | chars (c : CharClass)
  | anchor (a : Anchor)
  /-- Matches the empty text, and is recorded. -/
  | mark (m : Mark)
  | seq (a b : Node)
  /-- Either of two expressions, the first one preferred. -/
  | alt (a b : Node)
  /-- At least `lo` and at most `hi` times, as many as possible if `greedy`. -/
  | times (lo : Nat) (hi : Option Nat) (greedy : Bool) (a : Node)
deriving DecidableEq

/-- A word character of ASCII. -/
def isAsciiWord (c : Char) : Bool :=
  let n := c.toNat
  decide (48 ≤ n ∧ n ≤ 57) || decide (65 ≤ n ∧ n ≤ 90) || decide (97 ≤ n ∧ n ≤ 122) || c == '_'

/-- Whether the neighbour of a place is a word character. -/
def wordAt (unicode : Bool) (c : Option Char) : Bool :=
  c.any fun c => if unicode then Unicode.isWord c else isAsciiWord c

/-- Whether a boundary lies between two neighbours, given whether each is a word character. -/
def Boundary.holds : Boundary → Bool → Bool → Bool
  | .any, before, after => before != after
  | .notAny, before, after => before == after
  | .wordStart, before, after => !before && after
  | .wordEnd, before, after => before && !after
  | .halfStart, before, _ => !before
  | .halfEnd, _, after => !after

/-- Whether a condition holds between the characters `before` and `after`. -/
def Anchor.holds (before after : Option Char) : Anchor → Bool
  | .textStart => before.isNone
  | .textEnd => after.isNone
  | .lineStart => before.all (· == '\n')
  | .lineEnd => after.all (· == '\n')
  | .returnLineStart => before.all fun c => c == '\n' || (c == '\r' && after != some '\n')
  | .returnLineEnd => after.all fun c => c == '\r' || (c == '\n' && before != some '\r')
  | .boundary kind unicode => kind.holds (wordAt unicode before) (wordAt unicode after)

namespace Node

/-- The expressions one after the other. -/
def seqOf : List Node → Node
  | [] => .empty
  | [a] => a
  | a :: b :: rest => .seq a (seqOf (b :: rest))

/-- A choice among expressions, earlier ones preferred. -/
def altOf : List Node → Node
  | [] => .empty
  | [a] => a
  | a :: b :: rest => .alt a (altOf (b :: rest))

/-- An expression in a group with a name. -/
def named (name : String) (a : Node) : Node :=
  .seq (.mark (.opens name)) (.seq a (.mark (.closes name)))

/-- The memory, in bytes, of the expression with its repetitions written out. -/
def weight : Node → Nat
  | .empty | .anchor _ | .mark _ => 32
  | .chars c => 32 + 60 * c.weight
  | .seq a b => a.weight + b.weight
  | .alt a b => a.weight + b.weight + 32
  | .times lo hi _ a => (max lo (hi.getD 0) + if hi.isNone then 1 else 0) * (a.weight + 32)

end Node

end Disclosure.Regex
