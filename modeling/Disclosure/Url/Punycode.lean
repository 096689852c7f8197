import Disclosure.Number.Digits

/-!
# Punycode

Labels of domain names in the characters of ASCII: first the characters that are there already,
then the places and values of the others, as differences written in digits of varying weight.
-/

namespace Disclosure.Punycode

/-- Whether a character belongs to ASCII. -/
def isAscii (c : Char) : Bool :=
  decide (c.toNat < 128)

/-- The character of a digit below 36: letters come first. -/
def digit (d : Nat) : Char :=
  if d < 26 then Char.ofNat (97 + d) else Char.ofNat (22 + d)

/-- The value of a digit in either case. -/
def digitValue? (c : Char) : Option Nat :=
  let n := c.toNat
  if 97 ≤ n ∧ n ≤ 122 then some (n - 97)
  else if 65 ≤ n ∧ n ≤ 90 then some (n - 65)
  else if 48 ≤ n ∧ n ≤ 57 then some (n - 22)
  else none

/-- The least value of the digit at place `k` that is followed by another digit. -/
def threshold (k bias : Nat) : Nat :=
  if k ≤ bias then 1 else min (k - bias) 26

theorem threshold_pos (k bias : Nat) : 1 ≤ threshold k bias := by
  unfold threshold
  split <;> omega

theorem threshold_le (k bias : Nat) : threshold k bias ≤ 26 := by
  unfold threshold
  split <;> omega

/-- Divide a difference until it is small, counting places. -/
def shrink (delta places : Nat) : Nat :=
  if 455 < delta then shrink (delta / 35) (places + 36) else places + 36 * delta / (delta + 38)
termination_by delta
decreasing_by omega

/-- The bias after a difference: the next one is expected to be as large. -/
def adapt (delta count : Nat) (first : Bool) : Nat :=
  let d := if first then delta / 700 else delta / 2
  shrink (d + d / count) 0

/-! ### Writing -/

/-- A difference in digits, from place `k` on. -/
def writeDelta (bias k q : Nat) : List Char :=
  let t := threshold k bias
  if q < t then [digit q]
  else digit (t + (q - t) % (36 - t)) :: writeDelta bias (k + 36) ((q - t) / (36 - t))
termination_by q
decreasing_by
  have := threshold_pos k bias
  have := Nat.div_le_self (q - threshold k bias) (36 - threshold k bias)
  omega

/-- What has been written, and the state of the differences. -/
structure Writing where
  written : List Char
  delta : Nat
  bias : Nat
  /-- How many characters have been written. -/
  count : Nat

/-- Pass one character of the label in the round of the code point `m`. -/
def Writing.pass (basic m : Nat) (w : Writing) (c : Char) : Writing :=
  if c.toNat < m then { w with delta := w.delta + 1 }
  else if c.toNat = m then
    { written := w.written ++ writeDelta w.bias 36 w.delta
      delta := 0
      bias := adapt w.delta (w.count + 1) (w.count == basic)
      count := w.count + 1 }
  else w

/-- Write the characters with the given code points, in increasing order, from `n` on. -/
def writeRounds (label : List Char) (basic n : Nat) (w : Writing) : List Nat → Writing
  | [] => w
  | m :: ms =>
    let w := { w with delta := w.delta + (m - n) * (w.count + 1) }
    let w := label.foldl (Writing.pass basic m) w
    writeRounds label basic (m + 1) { w with delta := w.delta + 1 } ms

/-- A label in the characters of ASCII. -/
def encode (label : List Char) : List Char :=
  let basic := label.filter isAscii
  let others := ((label.filter (!isAscii ·)).map Char.toNat).mergeSort.eraseDups
  let w := writeRounds label basic.length 128 ⟨[], 0, 72, basic.length⟩ others
  (if basic.isEmpty then [] else basic ++ ['-']) ++ w.written

/-! ### Reading -/

/-- Read a difference from place `k` on, each digit weighing `weight`. -/
def readDelta? (bias k weight delta : Nat) : List Char → Option (Nat × List Char)
  | [] => none
  | c :: s => do
    let d ← digitValue? c
    let t := threshold k bias
    if d < t then return (delta + d * weight, s)
    else readDelta? bias (k + 36) (weight * (36 - t)) (delta + d * weight) s

theorem readDelta?_length {bias k weight delta q : Nat} {s r : List Char}
    (h : readDelta? bias k weight delta s = some (q, r)) : r.length < s.length := by
  induction s generalizing k weight delta with
  | nil => simp [readDelta?] at h
  | cons c s ih =>
    rw [readDelta?] at h
    cases hd : digitValue? c with
    | none => simp [hd] at h
    | some d =>
      simp only [hd, Option.bind_eq_bind, Option.bind_some] at h
      split at h
      · simp only [pure, Option.some.injEq, Prod.mk.injEq] at h
        simp [← h.2]
      · exact Nat.lt_succ_of_lt (ih h)

/-- Whether a code point is one of a character. -/
def isCodePoint (n : Nat) : Bool :=
  decide (n < 0xD800) || (decide (0xDFFF < n) && decide (n < 0x110000))

/-- Insert the characters that are written by differences. -/
def readRounds? (bias n i : Nat) (out s : List Char) : Option (List Char) :=
  if s.isEmpty then some out
  else
    match h : readDelta? bias 36 1 0 s with
    | none => none
    | some (delta, rest) =>
      let count := out.length + 1
      let n := n + (i + delta) / count
      let place := (i + delta) % count
      if isCodePoint n then
        readRounds? (adapt delta count (i == 0)) n (place + 1)
          (out.insertIdx place (Char.ofNat n)) rest
      else none
termination_by s.length
decreasing_by exact readDelta?_length h

/-- The label that characters of ASCII stand for. -/
def decode? (s : List Char) : Option (List Char) :=
  let tail := (s.reverse.takeWhile (· != '-')).reverse
  let basic := s.take (s.length - tail.length - 1)
  if basic.isEmpty then readRounds? 72 128 0 [] s else readRounds? 72 128 0 basic tail

end Disclosure.Punycode
