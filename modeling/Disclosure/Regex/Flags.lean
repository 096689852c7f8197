import Disclosure.Unicode.Blank

/-!
# Flags of a pattern

The flags that change how the rest of a group is read. In verbose patterns blanks and comments
between the parts carry no meaning.
-/

namespace Disclosure.Regex

/-- The flags in force at a place of a pattern. -/
structure Flags where
  caseInsensitive : Bool := false
  multiLine : Bool := false
  dotNewline : Bool := false
  swapGreed : Bool := false
  unicode : Bool := true
  verbose : Bool := false
  returnNewline : Bool := false
deriving DecidableEq

/-- Set or clear the flag with the given letter. -/
def Flags.set? (f : Flags) (letter : Char) (on : Bool) : Option Flags :=
  match letter with
  | 'i' => some { f with caseInsensitive := on }
  | 'm' => some { f with multiLine := on }
  | 's' => some { f with dotNewline := on }
  | 'U' => some { f with swapGreed := on }
  | 'u' => some { f with unicode := on }
  | 'x' => some { f with verbose := on }
  | 'R' => some { f with returnNewline := on }
  | _ => none

/-- Drop blanks and comments, inside a comment if `inComment`. -/
def dropComments (inComment : Bool) : List Char → List Char
  | [] => []
  | c :: s =>
    if inComment then dropComments (c != '\n') s
    else if Unicode.isBlank c then dropComments false s
    else if c = '#' then dropComments true s
    else c :: s

/-- Drop what a verbose pattern does not read. -/
def skip (f : Flags) (s : List Char) : List Char :=
  if f.verbose then dropComments false s else s

/--
Read letters of flags up to `:` or `)`. Each letter may occur once, and so may the minus sign, which
stands before a letter. Gives the flags and the text from the closing character on.
-/
def readFlags (f : Flags) (negated : Bool) (seen : List Char) :
    List Char → Option (Flags × List Char)
  | [] => none
  | c :: s =>
    if c = ':' ∨ c = ')' then
      if seen.head? = some '-' then none else some (f, c :: s)
    else if seen.contains c then none
    else if c = '-' then readFlags f true (c :: seen) s
    else do
      let f ← f.set? c !negated
      readFlags f negated (c :: seen) s

end Disclosure.Regex
