import Disclosure.Regex.Node

/-!
# Matching

A text is searched character by character. What is left to match is a list of expressions; each
character turns it into the lists that may follow, in order of preference, so that the earlier
alternative and the longer or shorter repetition win as the pattern says. Equal lists are followed
once, which keeps the work proportional to pattern and text.
-/

namespace Disclosure.Regex

/-- What an expression can do at a place: match the empty text, or take the next character. -/
inductive Outcome where
  | done (marks : List Mark)
  | next (marks : List Mark) (rest : List Node)

namespace Outcome

/-- Add marks left before. -/
def withMarks (before : List Mark) : Outcome → Outcome
  | .done marks => .done (before ++ marks)
  | .next marks rest => .next (before ++ marks) rest

/-- The marks of an outcome that took no character. -/
def done? : Outcome → Option (List Mark)
  | .done marks => some marks
  | .next _ _ => none

/-- Let `more` follow an outcome that took a character. -/
def append? (more : List Node) : Outcome → Option Outcome
  | .done _ => none
  | .next marks rest => some (.next marks (rest ++ more))

/-- Drop all but the first outcome that took no character. -/
def distinct : List Outcome → List Outcome
  | [] => []
  | .next marks rest :: os => .next marks rest :: distinct os
  | .done marks :: os => .done marks :: os.filter fun o => o.done?.isNone

/-- The outcomes of an expression followed by `more`, whose own outcomes are `after`. -/
def follow (more : List Node) (after : List Outcome) : List Outcome → List Outcome
  | [] => []
  | .next marks rest :: os => .next marks (rest ++ more) :: follow more after os
  | .done marks :: os => after.map (withMarks marks) ++ os.filterMap (append? more)

end Outcome

/-- The outcomes of an expression between two characters, preferred ones first. -/
def Node.outcomes (before after : Option Char) : Node → List Outcome
  | .empty => [.done []]
  | .chars c => if after.any c.contains then [.next [] []] else []
  | .anchor a => if a.holds before after then [.done []] else []
  | .mark m => [.done [m]]
  | .seq a b => Outcome.follow [b] (b.outcomes before after) (a.outcomes before after)
  | .alt a b => Outcome.distinct (a.outcomes before after ++ b.outcomes before after)
  | .times lo hi greedy a =>
    if hi = some 0 then [.done []]
    else
      let body := a.outcomes before after
      let idle := body.findSome? Outcome.done?
      -- where the body matches the empty text, any number of turns may be skipped
      let left := .times (if idle.isSome then 0 else lo - 1) (hi.map (· - 1)) greedy a
      let turns := body.filterMap (Outcome.append? [left])
      let leave :=
        if lo = 0 then [.done []]
        else idle.toList.map .done
      if greedy then turns ++ leave else leave ++ turns

/-- The outcomes of expressions one after the other. -/
def outcomesOf (before after : Option Char) : List Node → List Outcome
  | [] => [.done []]
  | a :: rest => Outcome.follow rest (outcomesOf before after rest) (a.outcomes before after)

/-- The marks that were passed, each with the text behind its place. -/
abbrev Captures := List (Mark × List Char)

/-- Marks passed in front of a text. -/
def passedAt (s : List Char) (marks : List Mark) : Captures :=
  marks.map fun m => (m, s)

/-- A way through the pattern: the marks passed so far, and what is left to match. -/
structure Thread where
  captures : Captures
  rest : List Node

/-- Add the ways that go on to those already known, up to the first that is complete. -/
def collect (s : List Char) (captures : Captures) (known : List Thread) :
    List Outcome → List Thread × Option Captures
  | [] => (known, none)
  | .done marks :: _ => (known, some (captures ++ passedAt s marks))
  | .next marks rest :: os =>
    if known.any fun t => decide (t.rest = rest) then collect s captures known os
    else collect s captures (known ++ [⟨captures ++ passedAt s marks, rest⟩]) os

/-- Move every way by one character. Ways after a complete one are given up. -/
def advance (before : Option Char) (s : List Char) (known : List Thread) :
    List Thread → List Thread × Option Captures
  | [] => (known, none)
  | t :: ts =>
    match collect s t.captures known (outcomesOf before s.head? t.rest) with
    | (known, some captures) => (known, some captures)
    | (known, none) => advance before s known ts

/--
Search a text, beginning at every place until a match is found. Gives the marks passed by the
preferred match.
-/
def search (start : Node) (found : Option Captures) (threads : List Thread)
    (before : Option Char) : List Char → Option Captures
  | [] =>
    let threads := if found.isNone then threads ++ [⟨[], [start]⟩] else threads
    (advance before [] [] threads).2 <|> found
  | c :: s =>
    let threads := if found.isNone then threads ++ [⟨[], [start]⟩] else threads
    let (threads, complete) := advance before (c :: s) [] threads
    let found := complete <|> found
    if threads.isEmpty && found.isSome then found else search start found threads (some c) s

/--
The text of a group, from where it was last opened to where it was last closed. There is none if the
group took no part.
-/
def Captures.text? (captures : Captures) (name : String) : Option String := do
  let opened ← captures.reverse.lookup (.opens name)
  let closed ← captures.reverse.lookup (.closes name)
  return String.ofList (opened.take (opened.length - closed.length))

end Disclosure.Regex
