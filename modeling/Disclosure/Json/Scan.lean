import Disclosure.Json.Basic

/-!
# Reading the scalars of a JSON text

Strings, numbers and the three words. A scalar that is complete but has no value (a number out of
range, half of a surrogate pair) is told apart from one at which reading has to stop: a reader that
only skips it may go on.
-/

namespace Disclosure.Json

/-- Why a text is not the JSON that was expected. -/
inductive Fault where
  /-- The text ends where more is needed. -/
  | endOfText
  /-- The text ends inside a number. -/
  | cutNumber
  /-- The text ends inside a word. -/
  | cutWord
  /-- A character stands where it may not. -/
  | malformed
  /-- A number is too large. -/
  | numberRange
  /-- An escape writes half of a surrogate pair. -/
  | unpairedSurrogate
  /-- Lists and objects are nested too deep. -/
  | tooDeep
  /-- Something follows the value. -/
  | trailing
deriving DecidableEq

/-- What reading a scalar gives: a value, no value but a place to go on, or neither. -/
inductive Scan (α : Type) where
  | value (a : α) (rest : List Char)
  | flawed (f : Fault) (rest : List Char)
  | stop (f : Fault)

/-- The text after a scalar, if reading can go on. -/
def Scan.rest? {α : Type} : Scan α → Option (List Char)
  | .value _ r => some r
  | .flawed _ r => some r
  | .stop _ => none

/-- The fault of a scalar that has no value. -/
def Scan.fault {α : Type} : Scan α → Fault
  | .value _ _ => .malformed
  | .flawed f _ => f
  | .stop f => f

/-- The value of a scalar, or its fault. -/
def Scan.toExcept {α : Type} : Scan α → Except Fault α
  | .value a _ => .ok a
  | .flawed f _ => .error f
  | .stop f => .error f

/-! ### Strings -/

/-- The value of a hexadecimal digit. -/
def hexValue? (c : Char) : Option Nat :=
  let n := c.toNat
  if 48 ≤ n ∧ n ≤ 57 then some (n - 48)
  else if 65 ≤ n ∧ n ≤ 70 then some (n - 55)
  else if 97 ≤ n ∧ n ≤ 102 then some (n - 87)
  else none

/-- The value of four hexadecimal digits. -/
def hexQuad? (a b c d : Char) : Option Nat := do
  return ((← hexValue? a) * 16 + (← hexValue? b)) * 256 + (← hexValue? c) * 16 + (← hexValue? d)

/-- The character that an escape of one letter writes. -/
def unescape? (c : Char) : Option Char :=
  match c with
  | '"' => some '"'
  | '\\' => some '\\'
  | '/' => some '/'
  | 'b' => some '\x08'
  | 'f' => some '\x0c'
  | 'n' => some '\n'
  | 'r' => some '\r'
  | 't' => some '\t'
  | _ => none

/-- The first half of a surrogate pair. -/
def isHighSurrogate (n : Nat) : Bool :=
  decide (0xD800 ≤ n) && decide (n < 0xDC00)

/-- The second half of a surrogate pair. -/
def isLowSurrogate (n : Nat) : Bool :=
  decide (0xDC00 ≤ n) && decide (n < 0xE000)

/-- The character of a surrogate pair. -/
def pairChar (high low : Nat) : Char :=
  Char.ofNat (0x10000 + (high - 0xD800) * 0x400 + (low - 0xDC00))

/--
Read a string after its opening quote. `high` is the first half of a surrogate pair that waits for
the second, `flaw` the first fault met that does not stop reading, and `done` the characters read so
far, last one first.
-/
def scanString (high : Option Nat) (flaw : Option Fault) (done : List Char) :
    List Char → Scan String
  | [] => .stop (flaw.getD .endOfText)
  | '"' :: s =>
    match flaw <|> high.map fun _ => .unpairedSurrogate with
    | none => .value (String.ofList done.reverse) s
    | some f => .flawed f s
  | '\\' :: 'u' :: a :: b :: c :: d :: s =>
    match hexQuad? a b c d, high with
    | none, _ => .stop (flaw.getD .malformed)
    | some n, some h =>
      if isLowSurrogate n then scanString none flaw (pairChar h n :: done) s
      else scanString none (flaw <|> some .unpairedSurrogate) done s
    | some n, none =>
      if isHighSurrogate n then scanString (some n) flaw done s
      else if isLowSurrogate n then scanString none (flaw <|> some .unpairedSurrogate) done s
      else scanString none flaw (Char.ofNat n :: done) s
  | '\\' :: 'u' :: s =>
    -- four bytes that are not four digits are malformed; fewer are a text cut short
    .stop (flaw.getD (if 4 ≤ (String.ofList s).utf8ByteSize then .malformed else .endOfText))
  | ['\\'] => .stop (flaw.getD .endOfText)
  | '\\' :: c :: s =>
    match unescape? c with
    | none => .stop (flaw.getD .malformed)
    | some e => scanString none (flaw <|> high.map fun _ => .unpairedSurrogate) (e :: done) s
  | c :: s =>
    if c.toNat < 32 then .stop (flaw.getD .malformed)
    else scanString none (flaw <|> high.map fun _ => .unpairedSurrogate) (c :: done) s

theorem scanString_rest_lt {high : Option Nat} {flaw : Option Fault} {done s r : List Char}
    (h : (scanString high flaw done s).rest? = some r) : r.length < s.length := by
  fun_induction scanString high flaw done s <;>
    first
    | simp [Scan.rest?] at h; done
    | simp only [Scan.rest?, Option.some.injEq] at h
      subst h
      simp
    | rename_i ih
      have := ih h
      simp only [List.length_cons]
      omega

/-! ### Numbers -/

/-- The greatest integer that is held exactly. -/
def maxInteger : Nat := twoTo 64 - 1

/--
Read digits into `n` as long as the result is an integer of 64 bits. Gives the integer and the
number of digits read.
-/
def takeDigits (n : Nat) : List Char → Nat × Nat
  | [] => (n, 0)
  | c :: s =>
    let next := 10 * n + digitValue c
    if next ≤ maxInteger then
      let (m, used) := takeDigits next s
      (m, used + 1)
    else (n, 0)

/-- The number of an integer literal. A negative zero is no integer. -/
def integerNumber? (negative : Bool) (n : Nat) : Option Number :=
  if negative then
    if 0 < n ∧ n ≤ twoTo 63 then some (.int (-n))
    else (Binary64.ofRatio? true n 1).map .float
  else some (.int n)

/--
The number written by an integer part, a fraction and an exponent. Digits that no longer fit into
64 bits are dropped; those of the integer part count into the exponent.
-/
def numberOf? (negative : Bool) (whole : List Char) (fraction : Option (List Char))
    (exponent : Option Int) : Option Number :=
  let (n, used) := takeDigits 0 whole
  let dropped := whole.length - used
  match fraction, exponent, dropped with
  | none, none, 0 => integerNumber? negative n
  | _, _, _ =>
    let (m, places) := takeDigits n (fraction.getD [])
    let e : Int := dropped - places + exponent.getD 0
    (Binary64.ofParts? negative m e).map .float

/-- The end of a number: its value, if it has one. -/
def endNumber (negative : Bool) (whole : List Char) (fraction : Option (List Char))
    (exponent : Option Int) (rest : List Char) : Scan Number :=
  match numberOf? negative whole fraction exponent with
  | some n => .value n rest
  | none => .flawed .numberRange rest

/-- The fault of a number that lacks a digit before `rest`. -/
def missingDigit (rest : List Char) : Fault :=
  if rest.isEmpty then .cutNumber else .malformed

/-- Read the digits of an exponent. -/
def scanPower (negative : Bool) (whole : List Char) (fraction : Option (List Char))
    (minus : Bool) (s : List Char) : Scan Number :=
  let ds := s.takeWhile isDigit
  let rest := s.dropWhile isDigit
  if ds.isEmpty then .stop (missingDigit rest)
  else
    let e : Int := readDigits 0 ds
    endNumber negative whole fraction (some (if minus then -e else e)) rest

/-- Read the exponent of a number, if there is one. -/
def scanExponent (negative : Bool) (whole : List Char) (fraction : Option (List Char))
    (s : List Char) : Scan Number :=
  match s with
  | c :: s' =>
    if c = 'e' ∨ c = 'E' then
      match s' with
      | '+' :: s'' => scanPower negative whole fraction false s''
      | '-' :: s'' => scanPower negative whole fraction true s''
      | _ => scanPower negative whole fraction false s'
    else endNumber negative whole fraction none s
  | [] => endNumber negative whole fraction none s

/-- Read what follows the integer part of a number. -/
def scanFraction (negative : Bool) (whole : List Char) (s : List Char) : Scan Number :=
  match s with
  | '.' :: s' =>
    let ds := s'.takeWhile isDigit
    let rest := s'.dropWhile isDigit
    if ds.isEmpty then .stop (missingDigit rest)
    else scanExponent negative whole (some ds) rest
  | _ => scanExponent negative whole none s

/-- Read a number without its sign. A leading zero stands alone. -/
def scanMagnitude (negative : Bool) (s : List Char) : Scan Number :=
  match s with
  | '0' :: s' =>
    if (s'.takeWhile isDigit).isEmpty then scanFraction negative ['0'] s' else .stop .malformed
  | _ =>
    let ds := s.takeWhile isDigit
    let rest := s.dropWhile isDigit
    if ds.isEmpty then .stop (missingDigit rest) else scanFraction negative ds rest

/-- Read a number. -/
def scanNumber (s : List Char) : Scan Number :=
  match s with
  | '-' :: s' => scanMagnitude true s'
  | _ => scanMagnitude false s

theorem length_dropWhile_le (p : Char → Bool) (s : List Char) :
    (s.dropWhile p).length ≤ s.length :=
  (List.dropWhile_suffix p).length_le

theorem length_dropWhile_lt {p : Char → Bool} {s : List Char}
    (h : (s.takeWhile p).isEmpty = false) : (s.dropWhile p).length < s.length := by
  have hs := congrArg List.length (List.takeWhile_append_dropWhile (p := p) (l := s))
  have : 0 < (s.takeWhile p).length := by
    cases ht : s.takeWhile p <;> simp_all
  simp only [List.length_append] at hs
  omega

theorem endNumber_rest {n : Bool} {w : List Char} {f : Option (List Char)} {e : Option Int}
    {s r : List Char} (h : (endNumber n w f e s).rest? = some r) : r = s := by
  unfold endNumber at h
  split at h <;> simp_all [Scan.rest?]

theorem scanPower_rest_le {n m : Bool} {w : List Char} {f : Option (List Char)}
    {s r : List Char} (h : (scanPower n w f m s).rest? = some r) : r.length ≤ s.length := by
  simp only [scanPower] at h
  split at h
  · simp [Scan.rest?] at h
  · rw [endNumber_rest h]
    exact length_dropWhile_le ..

theorem scanExponent_rest_le {n : Bool} {w : List Char} {f : Option (List Char)}
    {s r : List Char} (h : (scanExponent n w f s).rest? = some r) : r.length ≤ s.length := by
  unfold scanExponent at h
  split at h
  · split at h
    · split at h <;> · have := scanPower_rest_le h; simp only [List.length_cons] at *; omega
    · simp [endNumber_rest h]
  · simp [endNumber_rest h]

theorem scanFraction_rest_le {n : Bool} {w s r : List Char}
    (h : (scanFraction n w s).rest? = some r) : r.length ≤ s.length := by
  unfold scanFraction at h
  split at h
  · rename_i s'
    dsimp only at h
    split at h
    · simp [Scan.rest?] at h
    · have := scanExponent_rest_le h
      have := length_dropWhile_le isDigit s'
      simp only [List.length_cons]
      omega
  · exact scanExponent_rest_le h

theorem scanMagnitude_rest_lt {n : Bool} {s r : List Char}
    (h : (scanMagnitude n s).rest? = some r) : r.length < s.length := by
  unfold scanMagnitude at h
  split at h
  · split at h
    · have := scanFraction_rest_le h
      simp only [List.length_cons]
      omega
    · simp [Scan.rest?] at h
  · dsimp only at h
    split at h
    · simp [Scan.rest?] at h
    · rename_i hne
      have := scanFraction_rest_le h
      have := length_dropWhile_lt (p := isDigit) (s := s) (by simpa using hne)
      omega

theorem scanNumber_rest_lt {s r : List Char} (h : (scanNumber s).rest? = some r) :
    r.length < s.length := by
  unfold scanNumber at h
  split at h
  · have := scanMagnitude_rest_lt h
    simp only [List.length_cons]
    omega
  · exact scanMagnitude_rest_lt h

/-! ### Words -/

/-- Read the rest of one of the words `null`, `true` and `false`. -/
def scanWord : List Char → List Char → Scan Unit
  | [], s => .value () s
  | _ :: _, [] => .stop .cutWord
  | w :: ws, c :: s => if w = c then scanWord ws s else .stop .malformed

theorem scanWord_rest_le {w s r : List Char} (h : (scanWord w s).rest? = some r) :
    r.length ≤ s.length := by
  fun_induction scanWord w s with
  | case1 => simp_all [Scan.rest?]
  | case2 => simp [Scan.rest?] at h
  | case3 _ _ _ ih =>
    have := ih h
    simp only [List.length_cons]
    omega
  | case4 => simp [Scan.rest?] at h

end Disclosure.Json
