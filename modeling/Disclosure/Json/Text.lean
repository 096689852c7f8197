import Disclosure.Json.Basic

/-!
# Compact JSON text

Values are written without blanks, with the keys of an object in the order in which they are held.
In strings only the quote, the backslash and the control characters below the space are escaped.
-/

namespace Disclosure

namespace Json

/-- A hexadecimal digit, in lower case. -/
def hexDigit (n : Nat) : Char :=
  if n < 10 then Char.ofNat (48 + n) else Char.ofNat (87 + n)

/-- How a character is written inside a string. -/
def escape (c : Char) : List Char :=
  match c.toNat with
  | 0x22 => ['\\', '"']
  | 0x5C => ['\\', '\\']
  | 0x08 => ['\\', 'b']
  | 0x09 => ['\\', 't']
  | 0x0A => ['\\', 'n']
  | 0x0C => ['\\', 'f']
  | 0x0D => ['\\', 'r']
  | n => if n < 32 then ['\\', 'u', '0', '0', hexDigit (n / 16), hexDigit (n % 16)] else [c]

/-- A string with its quotes. -/
def quote (s : String) : List Char :=
  '"' :: (s.toList.flatMap escape ++ ['"'])

mutual

/-- The characters of the compact text of a value. -/
def chars : Json → List Char
  | .null => ['n', 'u', 'l', 'l']
  | .bool true => ['t', 'r', 'u', 'e']
  | .bool false => ['f', 'a', 'l', 's', 'e']
  | .num n => n.text
  | .str s => quote s
  | .arr items => '[' :: (itemsChars items ++ [']'])
  | .obj members => '{' :: (membersChars members ++ ['}'])

/-- The items of a list, separated by commas. -/
def itemsChars : List Json → List Char
  | [] => []
  | [v] => v.chars
  | v :: w :: vs => v.chars ++ ',' :: itemsChars (w :: vs)

/-- The members of an object, separated by commas. -/
def membersChars : List (String × Json) → List Char
  | [] => []
  | [(k, v)] => quote k ++ ':' :: v.chars
  | (k, v) :: m :: ms => quote k ++ ':' :: (v.chars ++ ',' :: membersChars (m :: ms))

end

/-- The compact text of a value. -/
def text (v : Json) : String :=
  String.ofList v.chars

/-- A string stands for itself, any other value for its compact text. -/
def scalarText : Json → String
  | .str s => s
  | v => v.text

end Json

end Disclosure
