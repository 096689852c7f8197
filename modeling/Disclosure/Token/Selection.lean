import Disclosure.Token.Sequence

/-!
# Selections of tokens

What a field of tokens selects: everything, when the wildcard is among the tokens, and otherwise
the tokens listed.
-/

namespace Disclosure

/-- The token that stands for every token. -/
def wildcard : String := "*"

/-- The token that a selection of every token is reported as, and that also selects everything. -/
def allToken : String := "all"

/-- A selection of tokens. -/
inductive Selection where
  | all
  | listed (tokens : Tokens)
deriving DecidableEq

namespace Selection

/-- No tokens. -/
def none : Selection := .listed .empty

instance : Inhabited Selection := ⟨none⟩

/-- The selection that a sequence of tokens describes. -/
def ofTokens (tokens : Tokens) : Selection :=
  if tokens.contains wildcard then .all else .listed tokens

/-- Whether a token is selected. -/
def selects : Selection → String → Bool
  | .all, _ => true
  | .listed tokens, t => tokens.contains t || tokens.contains allToken

/-- Whether every token is selected by the wildcard. -/
def isAll : Selection → Bool
  | .all => true
  | .listed _ => false

/-- Whether nothing is selected. -/
def isEmpty : Selection → Bool
  | .all => false
  | .listed tokens => tokens.isEmpty

/-- The tokens listed, if it is given by a list. -/
def listed? : Selection → Option Tokens
  | .all => Option.none
  | .listed tokens => some tokens

/-- The tokens of a selection; one of everything has the one token `all`. -/
def toList : Selection → List String
  | .all => [allToken]
  | .listed tokens => tokens.items

end Selection

end Disclosure
