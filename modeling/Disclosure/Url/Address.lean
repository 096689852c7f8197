import Disclosure.Number.Digits
import Disclosure.Text.Trim

/-!
# Network addresses

Hosts that are given by numbers: four bytes, of which the last ones may be written together, or
eight groups of hexadecimal digits.
-/

namespace Disclosure

/-- The value of a hexadecimal digit in either case. -/
def hexDigitValue? (c : Char) : Option Nat :=
  let n := c.toNat
  if 48 ≤ n ∧ n ≤ 57 then some (n - 48)
  else if 97 ≤ n ∧ n ≤ 102 then some (n - 87)
  else if 65 ≤ n ∧ n ≤ 70 then some (n - 55)
  else none

/-- Read digits of a base. -/
def readBase? (base : Nat) (s : List Char) : Option Nat :=
  s.foldlM (fun n c => do
    let d ← hexDigitValue? c
    if d < base then some (base * n + d) else none) 0

/-! ### Four bytes -/

namespace ByteAddress

/-- Read a part of an address: a number in decimal, octal or hexadecimal digits. -/
def readPart? (s : List Char) : Option Nat :=
  match s with
  | [] => none
  | '0' :: 'x' :: s' => readBase? 16 s'
  | '0' :: 'X' :: s' => readBase? 16 s'
  | '0' :: c :: s' => readBase? 8 (c :: s')
  | _ => readBase? 10 s

/-- The parts of an address. A stop at the end carries no meaning. -/
def parts (s : List Char) : List (List Char) :=
  let ps := Text.splitAt (· == '.') s
  if 1 < ps.length ∧ ps.getLast? = some [] then ps.dropLast else ps

/-- Whether a host ends in a number, and so has to be an address. -/
def endsInNumber (s : List Char) : Bool :=
  match (parts s).getLast? with
  | some p => (!p.isEmpty && p.all isDigit) || (readPart? p).isSome
  | none => false

/-- Read an address as a number of 32 bits. -/
def read? (s : List Char) : Option Nat := do
  let numbers ← (parts s).mapM readPart?
  let last ← numbers.getLast?
  let front := numbers.dropLast
  if front.length ≤ 3 ∧ front.all (· ≤ 255) ∧ last < twoTo (8 * (4 - front.length)) then
    some (front.foldl (fun n b => 256 * n + b) 0 * twoTo (8 * (4 - front.length)) + last)
  else none

/-- An address as its four bytes. -/
def chars (n : Nat) : List Char :=
  List.intercalate ['.']
    ([n / twoTo 24, n / twoTo 16 % 256, n / twoTo 8 % 256, n % 256].map decimalDigits)

end ByteAddress

/-! ### Eight groups -/

namespace GroupAddress

/-- Read a group of one to four digits. -/
def readGroup? (s : List Char) : Option Nat :=
  if s.isEmpty ∨ 4 < s.length then none else readBase? 16 s

/-- Read a byte in decimal digits, without leading zeros. -/
def readByte? (s : List Char) : Option Nat :=
  if s.isEmpty ∨ 3 < s.length ∨ (s.length ≠ 1 ∧ s.head? = some '0') then none
  else do
    let n ← readBase? 10 s
    if n ≤ 255 then some n else none

/-- Read four bytes as two groups. -/
def readBytes? (s : List Char) : Option (List Nat) := do
  match ← (Text.splitAt (· == '.') s).mapM readByte? with
  | [a, b, c, d] => some [256 * a + b, 256 * c + d]
  | _ => none

/-- Read groups between colons. The last two may be written as four bytes. -/
def readGroups? : List (List Char) → Option (List Nat)
  | [] => some []
  | [p] => if p.contains '.' then readBytes? p else (readGroup? p).map ([·])
  | p :: ps => do
    let n ← readGroup? p
    let ns ← readGroups? ps
    return n :: ns

/-- Read the groups of a part of an address, which may be empty. -/
def readSide? (s : List Char) : Option (List Nat) :=
  if s.isEmpty then some [] else readGroups? (Text.splitAt (· == ':') s)

/-- The text in front of the first pair of colons, and the text behind it. -/
def splitGap? : List Char → Option (List Char × List Char)
  | ':' :: ':' :: s => some ([], s)
  | c :: s => (splitGap? s).map fun (a, b) => (c :: a, b)
  | [] => none

/-- Read an address. A pair of colons stands for one or more groups of zero. -/
def read? (s : List Char) : Option (List Nat) :=
  match splitGap? s with
  | none => do
    let ns ← readSide? s
    if ns.length = 8 then some ns else none
  | some (front, back) => do
    if front.contains '.' then none
    else
      let a ← readSide? front
      let b ← readSide? back
      if a.length + b.length ≤ 7 then
        some (a ++ List.replicate (8 - a.length - b.length) 0 ++ b)
      else none

/-- A hexadecimal digit. -/
def hexChar (d : Nat) : Char :=
  if d < 10 then Char.ofNat (48 + d) else Char.ofNat (87 + d)

/-- The hexadecimal digits of a group. -/
def groupChars (n : Nat) : List Char :=
  if n < 16 then [hexChar n] else groupChars (n / 16) ++ [hexChar (n % 16)]
termination_by n
decreasing_by omega

/-- The length of the run of zeros at the beginning. -/
def zeros (ns : List Nat) : Nat :=
  (ns.takeWhile (· == 0)).length

/-- Where the longest run of zeros begins, and its length. The first of equally long runs counts. -/
def longestGap : Nat → List Nat → Nat × Nat
  | _, [] => (0, 0)
  | i, n :: ns =>
    let later := longestGap (i + 1) ns
    if later.2 ≤ zeros (n :: ns) then (i, zeros (n :: ns)) else later

/-- Groups between colons. -/
def joined (ns : List Nat) : List Char :=
  List.intercalate [':'] (ns.map groupChars)

/-- An address with its longest gap left out, if it has more than one group. -/
def chars (ns : List Nat) : List Char :=
  let gap := longestGap 0 ns
  if gap.2 < 2 then joined ns
  else joined (ns.take gap.1) ++ [':', ':'] ++ joined (ns.drop (gap.1 + gap.2))

end GroupAddress

end Disclosure
