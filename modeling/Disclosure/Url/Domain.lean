import Disclosure.Text.Trim
import Disclosure.Unicode.Category
import Disclosure.Unicode.Lowercase
import Disclosure.Url.Punycode

/-!
# Domain names

Domain names of the web in the characters of ASCII: in lower case, with the labels that have other
characters in their encoded form.
-/

namespace Disclosure.Domain

open Punycode (isAscii)

/-! ### Characters -/

/-- The characters of ASCII that a domain name may not have. -/
def forbidden : List Char :=
  ['%', '#', '/', ':', '<', '>', '?', '@', '[', '\\', ']', '^', '|']

/-- Whether a character of ASCII may stand in a domain name. -/
def isAllowedAscii (c : Char) : Bool :=
  decide (32 < c.toNat) && decide (c.toNat < 127) && !forbidden.contains c

/-- Characters that are left out of domain names. -/
def ignored : Unicode.Ranges :=
  [(0xAD, 0xAD), (0x34F, 0x34F), (0x180B, 0x180D), (0x180F, 0x180F), (0x200B, 0x200B),
   (0x2060, 0x2060), (0x2064, 0x2064), (0xFE00, 0xFE0F), (0xFEFF, 0xFEFF), (0xE0100, 0xE01EF)]

/-- Characters that separate labels like the full stop. -/
def stops : List Nat := [0x3002, 0xFF0E, 0xFF61]

/-- What becomes of a character: lower case, and narrow forms in place of wide ones. -/
def mapChar (c : Char) : List Char :=
  if isAscii c then [Char.ofNat (if 65 ≤ c.toNat ∧ c.toNat ≤ 90 then c.toNat + 32 else c.toNat)]
  else if stops.contains c.toNat then ['.']
  else if ignored.contains c then []
  else if 0xFF01 ≤ c.toNat ∧ c.toNat ≤ 0xFF5E then
    Unicode.lowerChar (Char.ofNat (c.toNat - 0xFEE0))
  else Unicode.lowerChar c

/-- The characters that no domain name has: controls, spaces, and those without an assignment. -/
def unassigned : Unicode.Ranges :=
  ["c", "z"].flatMap fun name => (Unicode.categoryOrGroup? name).getD []

/-- The marks, which do not begin a label. -/
def marks : Unicode.Ranges :=
  (Unicode.categoryOrGroup? "m").getD []

/-- Whether a character may stand in a domain name. -/
def isAllowed (c : Char) : Bool :=
  if isAscii c then isAllowedAscii c else !unassigned.contains c

/-! ### Labels -/

/-- What encoded labels begin with. -/
def encodedMark : List Char := ['x', 'n', '-', '-']

/-- Whether the characters of a label go together: they are allowed, and no mark comes first. -/
def isLabel (label : List Char) : Bool :=
  label.all isAllowed && !(label.head?.any fun c => !isAscii c && marks.contains c)

/-- Whether an encoded label stands for a label that has no other form. -/
def isEncodedLabel (encoded : List Char) : Bool :=
  match Punycode.decode? encoded with
  | none => false
  | some label =>
    isLabel label && label.any (!isAscii ·) && label.all (fun c => mapChar c == [c]) &&
      Punycode.encode label == encoded

/-- A label in the characters of ASCII. -/
def asciiLabel? (label : List Char) : Option (List Char) :=
  if label.all isAscii then
    match encodedMark.isPrefixOf? label with
    | some encoded => if isEncodedLabel encoded then some label else none
    | none => if label.all isAllowed then some label else none
  else if isLabel label then some (encodedMark ++ Punycode.encode label)
  else none

/-- A domain name in the characters of ASCII. -/
def ascii? (name : List Char) : Option (List Char) := do
  let labels ← (Text.splitAt (· == '.') (name.flatMap mapChar)).mapM asciiLabel?
  return List.intercalate ['.'] labels

end Disclosure.Domain
