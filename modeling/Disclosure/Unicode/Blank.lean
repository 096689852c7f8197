import Disclosure.Unicode.Ranges

/-!
# White space

The characters that trimming removes and that a pattern's space class holds: the Unicode property
White_Space.
-/

namespace Disclosure.Unicode

/-- The characters with the property White_Space. -/
def blanks : Ranges :=
  [(0x9, 0xD), (0x20, 0x20), (0x85, 0x85), (0xA0, 0xA0), (0x1680, 0x1680), (0x2000, 0x200A),
   (0x2028, 0x2029), (0x202F, 0x202F), (0x205F, 0x205F), (0x3000, 0x3000)]

/-- Whether a character is white space. -/
def isBlank (c : Char) : Bool :=
  blanks.contains c

end Disclosure.Unicode
