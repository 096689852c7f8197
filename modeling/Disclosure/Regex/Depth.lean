/-!
# Depth of patterns

How deep the parts of a pattern are nested. Groups, repetitions and brackets add a level around
what they hold, and so do several parts side by side.
-/

namespace Disclosure.Regex

/-- A part of a pattern with its levels of nesting. -/
structure Leveled (α : Type) where
  value : α
  depth : Nat

/-- The greatest depth that a pattern may have. -/
def maxDepth : Nat := 250

/-- The depth of parts side by side: a single part adds no level. -/
def rowDepth : List Nat → Nat
  | [] => 0
  | [d] => d
  | d :: ds => ds.foldl max d + 1

end Disclosure.Regex
