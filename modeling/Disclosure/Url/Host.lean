import Disclosure.Url.Address
import Disclosure.Url.Domain

/-!
# Hosts of web addresses

The host that a web address names. Addresses of the well-known schemes name domains or numbers of
the network; in others the host is taken as it is written.
-/

namespace Disclosure.Url

/-! ### Schemes -/

/-- What the scheme of an address says about its host. -/
inductive SchemeKind where
  | file
  | special
  | other
deriving DecidableEq

/-- The schemes whose addresses always have a host. -/
def specialSchemes : List String := ["http", "https", "ws", "wss", "ftp"]

/-- The kind of a scheme in lower case. -/
def SchemeKind.ofScheme (scheme : String) : SchemeKind :=
  if scheme = "file" then .file else if scheme ∈ specialSchemes then .special else .other

/-- Whether a character is a letter of ASCII. -/
def isLetter (c : Char) : Bool :=
  (decide (65 ≤ c.toNat) && decide (c.toNat ≤ 90)) ||
    (decide (97 ≤ c.toNat) && decide (c.toNat ≤ 122))

/-- Whether a character may stand in a scheme behind the first letter. -/
def isSchemeChar (c : Char) : Bool :=
  isLetter c || isDigit c || c == '+' || c == '-' || c == '.'

/-- The kind of the scheme of an address, and what follows its colon. -/
def readScheme? (s : List Char) : Option (SchemeKind × List Char) :=
  match s with
  | [] => none
  | c :: _ =>
    if !isLetter c then none
    else
      match s.dropWhile isSchemeChar with
      | ':' :: rest =>
        let scheme := (s.takeWhile isSchemeChar).map Char.toLower
        some (.ofScheme (String.ofList scheme), rest)
      | _ => none

/-! ### Parts of an address -/

/-- Whether a character ends the part of an address that holds the host. -/
def endsAuthority (special : Bool) (c : Char) : Bool :=
  c == '/' || c == '?' || c == '#' || (special && c == '\\')

/-- A slash in either direction. -/
def isSlash (c : Char) : Bool :=
  c == '/' || c == '\\'

/-- The part of a text behind the last sign `@`, and the part in front of it, if it has one. -/
def splitUser (s : List Char) : Option (List Char) × List Char :=
  let host := (s.reverse.takeWhile (· != '@')).reverse
  if host.length = s.length then (none, s)
  else (some (s.take (s.length - host.length - 1)), host)

/-- The host at the beginning of a text. Colons in brackets belong to it. -/
def takeHost (inBrackets : Bool) : List Char → List Char
  | [] => []
  | c :: s =>
    if c = ':' ∧ !inBrackets then []
    else c :: takeHost (if c = '[' then true else if c = ']' then false else inBrackets) s

/-- Whether a text is the number of a service. -/
def isService (s : List Char) : Bool :=
  s.all isDigit && decide (readDigits 0 s ≤ 65535)

/-! ### Escapes -/

/-- Replace escapes by the bytes that they stand for. -/
def unescape : List UInt8 → List UInt8
  | 0x25 :: a :: b :: s =>
    match hexDigitValue? (Char.ofNat a.toNat), hexDigitValue? (Char.ofNat b.toNat) with
    | some x, some y => UInt8.ofNat (16 * x + y) :: unescape s
    | _, _ => 0x25 :: unescape (a :: b :: s)
  | c :: s => c :: unescape s
  | [] => []

/-- A text with its escapes replaced, if it is a text then. -/
def unescaped? (s : List Char) : Option (List Char) :=
  (String.fromUTF8? ⟨(unescape (String.ofList s).toUTF8.toList).toArray⟩).map String.toList

/-! ### Hosts -/

/-- Read a host in brackets. -/
def readBracketed? (s : List Char) : Option (List Char) :=
  if s.getLast? = some ']' then
    (GroupAddress.read? s.dropLast).map fun ns => '[' :: (GroupAddress.chars ns ++ [']'])
  else none

/-- Read a domain name, or a number of the network. -/
def readDomain? (s : List Char) : Option (List Char) := do
  let name ← Domain.ascii? (← unescaped? s)
  if name.isEmpty then none
  else if ByteAddress.endsInNumber name then (ByteAddress.read? name).map ByteAddress.chars
  else some name

/-- Read the host of an address of a well-known scheme. -/
def readSpecialHost? (s : List Char) : Option (List Char) :=
  match s with
  | '[' :: s' => readBracketed? s'
  | _ => readDomain? s

/-- The characters that no host has. -/
def forbiddenInHost : List Char :=
  ['\x00', '\t', '\n', '\r', ' ', '#', '/', ':', '<', '>', '?', '@', '[', '\\', ']', '^', '|']

/-- A byte as an escape. -/
def escapeByte (b : UInt8) : List Char :=
  let digit (d : Nat) : Char := if d < 10 then Char.ofNat (48 + d) else Char.ofNat (55 + d)
  ['%', digit (b.toNat / 16), digit (b.toNat % 16)]

/-- Controls and characters outside ASCII are escaped in hosts that are taken as written. -/
def escapeInHost (c : Char) : List Char :=
  if c.toNat < 32 ∨ 126 < c.toNat then (String.singleton c).toUTF8.toList.flatMap escapeByte
  else [c]

/-- Read a host that is taken as it is written. -/
def readPlainHost? (s : List Char) : Option (List Char) :=
  match s with
  | '[' :: s' => readBracketed? s'
  | _ => if s.any forbiddenInHost.contains then none else some (s.flatMap escapeInHost)

/--
The host behind two slashes. An address without a host may not have a user or a service, and one of
a special scheme has a host.
-/
def readAuthority? (special : Bool) (s : List Char) : Option (List Char) := do
  let authority := s.takeWhile (!endsAuthority special ·)
  let (user, rest) := splitUser authority
  let host := takeHost false rest
  let service := rest.drop host.length
  let rest := s.drop authority.length
  -- a backslash always ends the number of a service, even where it does not end the host
  let serviceOk := isService ((service.drop 1).takeWhile (· != '\\'))
  let emptyUser := user == some []
  if emptyUser && host.isEmpty && service.isEmpty && !rest.isEmpty then none
  else if special then
    if host.isEmpty || !serviceOk then none else readSpecialHost? host
  else
    let text ← readPlainHost? host
    if text.isEmpty then
      if !service.isEmpty || (user.any fun u => !u.isEmpty && u != [':']) then none else some []
    else if serviceOk then some text
    else none

/-! ### Files -/

/-- Whether a part of a path is the letter of a drive. -/
def isDrive (s : List Char) : Bool :=
  match s with
  | [c, d] => isLetter c && (d == ':' || d == '|')
  | _ => false

/-- The host of a file's address, behind two slashes. A path that begins with a drive has none. -/
def readFileHost? (s : List Char) : Option (List Char) := do
  let host := s.takeWhile (!endsAuthority true ·)
  if host.isEmpty || isDrive host then some []
  else
    let name ← readSpecialHost? host
    let path := s.drop host.length
    let first := match path with
      | c :: path' => if isSlash c then path'.takeWhile (!endsAuthority true ·) else []
      | [] => []
    if name = "localhost".toList || isDrive first then some [] else some name

/-! ### Addresses -/

/-- Drop controls and spaces at both ends, and line ends and tabs everywhere. -/
def clean (s : List Char) : List Char :=
  let strip := List.dropWhile fun c : Char => decide (c.toNat ≤ 32)
  (strip (strip s).reverse).reverse.filter fun c => c != '\t' && c != '\n' && c != '\r'

/-- The host of an address, if the address is well formed and has one. -/
def host? (address : String) : Option String := do
  let (kind, s) ← readScheme? (clean address.toList)
  let host ← match kind with
    | .special => readAuthority? true (s.dropWhile isSlash)
    | .file =>
      match s with
      | a :: b :: s' => if isSlash a && isSlash b then readFileHost? s' else none
      | _ => none
    | .other =>
      match s with
      | '/' :: '/' :: s' => readAuthority? false s'
      | _ => none
  if host.isEmpty then none else some (String.ofList host)

end Disclosure.Url
