import Disclosure.Calendar.DateText
import Disclosure.Proofs.Calendar.Date

/-!
# Reading dates

A day is read from the text that shows it. If its year has four digits, anything may follow behind
one of the characters that begin a time of day or a time zone (`Date.Writes.ofText?_eq`): whether
that is a time of day decides between two ways to read the text, and both give the day.
-/

namespace Disclosure

namespace Text

variable {s w : List Char}

lemma trimLeft_cons {c : Char} (hc : Unicode.isBlank c = false) (s : List Char) :
    trimLeft (c :: s) = c :: s := by
  simp [trimLeft, hc]

/-- White space is only trimmed off behind characters that are none. -/
lemma trimChars_append (hne : w ≠ []) (hw : ∀ c ∈ w, Unicode.isBlank c = false) (s : List Char) :
    trimChars (w ++ s) = w ++ (trimLeft s.reverse).reverse := by
  have hfront : trimLeft (w ++ s) = w ++ s := by
    obtain ⟨c, w, rfl⟩ := List.exists_cons_of_ne_nil hne
    exact trimLeft_cons (hw c List.mem_cons_self) _
  have hback : trimLeft (s.reverse ++ w.reverse) = trimLeft s.reverse ++ w.reverse := by
    obtain ⟨v, c, rfl⟩ := (List.eq_nil_or_concat w).resolve_left hne
    have hc : Unicode.isBlank c = false := hw c (by simp)
    rw [trimLeft, trimLeft, List.dropWhile_append]
    split_ifs with hempty
    · rw [List.isEmpty_iff.1 hempty]
      simp [hc]
    · rfl
  rw [trimChars, hfront, List.reverse_append, hback, List.reverse_append, List.reverse_reverse]

end Text

namespace Date

variable {d : Date} {c : Char} {ds s rest : List Char} {w n : Nat} {year : ℤ}

/-! ### Numbers -/

/-- Digits are read as a number up to the width, or up to a character that is no digit. -/
lemma readNumber?_append (hne : ds ≠ []) (hds : ∀ c ∈ ds, isDigit c) (hw : ds.length ≤ w)
    (hstop : ds.length = w ∨ ∀ c ∈ rest.head?, isDigit c = false) :
    readNumber? w (ds ++ rest) = some (readDigits 0 ds, rest) := by
  have htake : ((ds ++ rest).take w).takeWhile isDigit = ds := by
    rw [List.take_append, List.take_of_length_le hw, List.takeWhile_append_of_pos hds]
    have hnone : (rest.take (w - ds.length)).takeWhile isDigit = [] := by
      rcases hstop with rfl | hstop
      · simp
      · cases rest with
        | nil => simp
        | cons c rest =>
          have hc := hstop c rfl
          cases w - ds.length <;> simp [hc]
    rw [hnone, List.append_nil]
  have hempty : ds.isEmpty = false := by simpa using hne
  simp only [readNumber?, htake, hempty, List.drop_left]
  rfl

/-- A padded number of the width is read whatever follows it. -/
lemma readNumber?_padded (hn : n < 10 ^ (w + 1)) (rest : List Char) :
    readNumber? (w + 1) (padded (w + 1) n ++ rest) = some (n, rest) := by
  rw [readNumber?_append padded_ne_nil (fun _ => isDigit_of_mem_padded) (length_padded hn).le
    (.inl (length_padded hn)), readDigits_padded]

/-- A padded number of any width is read up to a hyphen. -/
lemma readNumber?_padded_hyphen (rest : List Char) :
    readNumber? (padded w n ++ '-' :: rest).length (padded w n ++ '-' :: rest) =
      some (n, '-' :: rest) := by
  rw [readNumber?_append padded_ne_nil (fun _ => isDigit_of_mem_padded) (by simp)
    (.inr (by rintro _ ⟨⟩; rfl)), readDigits_padded]

lemma trimLeft_padded (rest : List Char) :
    Text.trimLeft (padded w n ++ rest) = padded w n ++ rest := by
  obtain ⟨c, cs, hcs⟩ := List.exists_cons_of_ne_nil (padded_ne_nil (w := w) (n := n))
  have hc : isDigit c := isDigit_of_mem_padded (hcs ▸ List.mem_cons_self)
  rw [hcs, List.cons_append, Text.trimLeft_cons (isBlank_of_isDigit hc)]

lemma padded_append_ne (hc : isDigit c = false) : padded w n ++ rest ≠ c :: s := by
  obtain ⟨c', cs, hcs⟩ := List.exists_cons_of_ne_nil (padded_ne_nil (w := w) (n := n))
  have hc' : isDigit c' := isDigit_of_mem_padded (hcs ▸ List.mem_cons_self)
  intro h
  rw [hcs, List.cons_append, List.cons_eq_cons] at h
  rw [h.1, hc] at hc'
  cases hc'

lemma readField?_padded (hn : n < 10 ^ (w + 1)) (rest : List Char) :
    readField? (w + 1) (padded (w + 1) n ++ rest) = some (n, rest) := by
  rw [readField?, trimLeft_padded, readNumber?_padded hn]

/-! ### Days -/

lemma readYear?_yearChars (year : ℤ) (rest : List Char) :
    readYear? (yearChars year ++ '-' :: rest) = some (year, '-' :: rest) := by
  rw [yearChars]
  split_ifs with hshort hneg
  · -- four digits, and the first one is no sign
    have hlt : year.toNat < 10 ^ (3 + 1) := by omega
    have hyear : (year.toNat : ℤ) = year := Int.toNat_of_nonneg hshort.1
    rw [readYear?, trimLeft_padded]
    split
    · next heq => exact absurd heq (padded_append_ne rfl)
    · next heq => exact absurd heq (padded_append_ne rfl)
    · simp only [readNumber?_padded hlt, Option.bind_eq_bind, Option.bind_some, hyear]
      rfl
  · have hyear : -(year.natAbs : ℤ) = year := by omega
    rw [readYear?, List.cons_append, Text.trimLeft_cons (by decide)]
    simp only [readNumber?_padded_hyphen, Option.bind_eq_bind, Option.bind_some, hyear]
    rfl
  · have hyear : (year.natAbs : ℤ) = year := by omega
    rw [readYear?, List.cons_append, Text.trimLeft_cons (by decide)]
    simp only [readNumber?_padded_hyphen, Option.bind_eq_bind, Option.bind_some, hyear]
    rfl

/-- A day is read from the text that shows it, whatever follows. -/
lemma readDay?_chars (d : Date) (rest : List Char) :
    readDay? (d.chars ++ rest) = some (d, rest) := by
  have hmonth : d.month < 10 ^ (1 + 1) := by have := d.month_mem; omega
  have hday : d.day < 10 ^ (1 + 1) := by have := d.day_le; omega
  have hchars : d.chars ++ rest =
      yearChars d.year ++ '-' :: (padded 2 d.month ++ '-' :: (padded 2 d.day ++ rest)) := by
    simp [chars]
  rw [readDay?, hchars, readYear?_yearChars]
  simp only [Option.bind_eq_bind, Option.bind_some, expect?, if_true, readField?_padded hmonth,
    readField?_padded hday, ofParts?_parts]
  rfl

/-! ### Texts -/

lemma readWhole?_chars (d : Date) : readWhole? d.chars = some d := by
  have hday := readDay?_chars d []
  rw [List.append_nil] at hday
  rw [readWhole?, hday]

/-- A day is shown in characters of one byte. -/
lemma utf8Size_of_mem_chars (hc : c ∈ d.chars) : c.utf8Size = 1 := by
  rw [Char.utf8Size_eq_one_iff]
  rcases mem_chars hc with hdigit | rfl | rfl
  · simp only [isDigit, Bool.and_eq_true, decide_eq_true_eq] at hdigit
    rw [UInt32.le_iff_toNat_le]
    exact hdigit.2.trans (by decide)
  · decide
  · decide

/-- Characters of one byte each are split off at their number. -/
lemma splitBytes?_append {cs : List Char} (hcs : ∀ c ∈ cs, c.utf8Size = 1) (s : List Char) :
    splitBytes? cs.length (cs ++ s) = some (cs, s) := by
  induction cs with
  | nil => rw [List.length_nil, splitBytes?, List.nil_append]
  | cons c cs ih =>
    obtain ⟨hc, hcs⟩ := List.forall_mem_cons.1 hcs
    rw [List.length_cons, List.cons_append, splitBytes?, hc, if_pos (Nat.le_add_left 1 _),
      Nat.add_sub_cancel, ih hcs]
    rfl

/-- What may follow a day: a time of day or a time zone of any form, by its first character. -/
def timeMarks : List Char := ['T', 'Z', '+', '-']

lemma isTimeMark_iff : isTimeMark c ↔ c ∈ timeMarks := by
  simp [isTimeMark, timeMarks, or_assoc]

lemma isBlank_of_mem_timeMarks (hc : c ∈ timeMarks) : Unicode.isBlank c = false := by
  simp only [timeMarks, List.mem_cons, List.not_mem_nil, or_false] at hc
  rcases hc with rfl | rfl | rfl | rfl <;> decide

lemma readMarked?_chars (hyear : 0 ≤ d.year ∧ d.year ≤ 9999) (hc : c ∈ timeMarks)
    (s : List Char) : readMarked? (d.chars ++ c :: s) = some d := by
  have hsplit := splitBytes?_append (fun _ => utf8Size_of_mem_chars (d := d)) (c :: s)
  rw [length_chars hyear] at hsplit
  simp only [readMarked?, hsplit, isTimeMark_iff.2 hc, if_true, readWhole?_chars]

lemma ofChars?_chars (d : Date) : ofChars? d.chars = some d := by
  rw [ofChars?, readWhole?_chars]
  rfl

/-- Behind a day, a time of day and anything else that begins like one are both passed over. -/
lemma ofChars?_chars_mark (hyear : 0 ≤ d.year ∧ d.year ≤ 9999) (hc : c ∈ timeMarks)
    (s : List Char) : ofChars? (d.chars ++ c :: s) = some d := by
  have hwhole : readWhole? (d.chars ++ c :: s) = none := by
    rw [readWhole?, readDay?_chars]
  have hstamp : readStamp? (d.chars ++ c :: s) = none ∨
      readStamp? (d.chars ++ c :: s) = some d := by
    rw [readStamp?, readDay?_chars]
    split
    · next heq =>
      cases heq
      split_ifs
      · exact .inr rfl
      · exact .inl rfl
    · exact .inl rfl
  rw [ofChars?, hwhole, readMarked?_chars hyear hc]
  rcases hstamp with hstamp | hstamp <;> rw [hstamp] <;> rfl

/--
Whether a text writes a day: it shows the day and nothing else, or the year has four digits and
behind the day stands anything that begins like a time of day or a time zone.
-/
inductive Writes (d : Date) : String → Prop
  | day : Writes d d.text
  | moment (hyear : 0 ≤ d.year ∧ d.year ≤ 9999) {c : Char} (hc : c ∈ timeMarks)
      (rest : List Char) : Writes d (d.text ++ String.ofList (c :: rest))

lemma Writes.ofText?_eq {t : String} (h : Writes d t) : ofText? t = some d := by
  have hne : d.chars ≠ [] := by simp [chars]
  cases h with
  | day =>
    have htrim := Text.trimChars_of_not_isBlank fun _ => isBlank_of_mem_chars (d := d)
    rw [ofText?, text, String.toList_ofList, htrim, ofChars?_chars]
  | @moment hyear c hc rest =>
    have hblank : ∀ c' ∈ d.chars ++ [c], Unicode.isBlank c' = false := by
      intro c' hc'
      rcases List.mem_append.1 hc' with hc' | hc'
      · exact isBlank_of_mem_chars hc'
      · exact isBlank_of_mem_timeMarks (List.mem_singleton.1 hc' ▸ hc)
    have htext : (d.text ++ String.ofList (c :: rest)).toList = d.chars ++ [c] ++ rest := by
      simp [text]
    rw [ofText?, htext, Text.trimChars_append (by simp) hblank, List.append_assoc,
      List.singleton_append, ofChars?_chars_mark hyear hc]

end Date

end Disclosure
