import Disclosure.Unicode.Category
import Disclosure.Unicode.Property

/-!
# Quoted text

A text in quotes in which every character can be seen: quotes, backslashes and the common control
characters are escaped by a letter, other characters that do not print by their number.
-/

namespace Disclosure.Text

/-- The characters that do not print: controls, formats, separators and unassigned characters. -/
def unprintables : Unicode.Ranges :=
  ["cc", "cf", "cn", "co", "zl", "zp", "zs"].flatMap fun name =>
    (Unicode.category? name).getD []

/-- The characters that only change the look of the one before. -/
def extenders : Unicode.Ranges :=
  (Unicode.property? "graphemeextend").getD []

/-- Whether a character can be seen on its own. -/
def isPrintable (c : Char) : Bool :=
  if c.toNat < 127 then decide (32 ≤ c.toNat)
  else !unprintables.contains c && !extenders.contains c

/-- A character by its number, in braces. -/
def numbered (c : Char) : List Char :=
  '\\' :: 'u' :: '{' :: (Nat.toDigits 16 c.toNat ++ ['}'])

/-- How a character is written between the quotes. -/
def escape (c : Char) : List Char :=
  match c.toNat with
  | 0x00 => ['\\', '0']
  | 0x09 => ['\\', 't']
  | 0x0A => ['\\', 'n']
  | 0x0D => ['\\', 'r']
  | 0x22 => ['\\', '"']
  | 0x5C => ['\\', '\\']
  | _ => if isPrintable c then [c] else numbered c

/-- A text in quotes, with everything visible. -/
def quoted (s : String) : String :=
  String.ofList ('"' :: (s.toList.flatMap escape ++ ['"']))

end Disclosure.Text
