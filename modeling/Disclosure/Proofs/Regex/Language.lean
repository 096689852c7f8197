import Mathlib.Computability.Language
import Disclosure.Proofs.Regex.Search
import Disclosure.Proofs.Regex.Words

/-!
# The language of an expression

An expression without conditions on places takes the same texts wherever it stands, so it has a
language (`Node.language`), and it matches between two places if and only if a text of its language
stands there (`exists_matches_iff_mem_language`). A pattern of parts from the start of a text to its
end matches the texts of the product of their languages (`exists_isIn_matches_whole_iff`).
-/

namespace Disclosure.Regex

/-- The texts that an expression takes. -/
def Node.language : Node → Language Char
  | .empty => 1
  | .chars a => {w | ∃ c, a.contains c ∧ w = [c]}
  | .anchor _ => 0
  | .mark _ => 1
  | .seq a b => a.language * b.language
  | .alt a b => a.language + b.language
  | .times lo hi _ a => {w | ∃ n, Allows lo hi n ∧ w ∈ a.language ^ n}

/-- Whether an expression has no conditions on places. -/
def Node.IsPlain : Node → Prop
  | .anchor _ => False
  | .empty | .chars _ | .mark _ => True
  | .seq a b | .alt a b => a.IsPlain ∧ b.IsPlain
  | .times _ _ _ a => a.IsPlain

/-- It can be told whether an expression is plain. -/
def Node.decideIsPlain : (a : Node) → Decidable a.IsPlain
  | .anchor _ => .isFalse id
  | .empty | .chars _ | .mark _ => .isTrue trivial
  | .seq a b | .alt a b => @instDecidableAnd _ _ a.decideIsPlain b.decideIsPlain
  | .times _ _ _ a => a.decideIsPlain

instance : DecidablePred Node.IsPlain := Node.decideIsPlain

variable {a b : Node} {as parts : List Node} {p : Place} {w s rest : List Char}

/-! ### Matches and languages -/

/-- Turns take texts of the language one after the other. -/
lemma exists_turns_iff_mem_pow
    (h : ∀ p rest, (∃ q, a.Matches p q ∧ q.behind = rest) ↔
      ∃ w ∈ a.language, p.behind = w ++ rest) (n : Nat) (p : Place) (rest : List Char) :
    (∃ q, Turns a.Matches n p q ∧ q.behind = rest) ↔
      ∃ w ∈ a.language ^ n, p.behind = w ++ rest := by
  induction n generalizing p with
  | zero => simp [Turns, Language.mem_one]
  | succ n ih =>
    simp only [Turns, pow_succ', Language.mem_mul]
    constructor
    · rintro ⟨r, ⟨q, hfirst, hturns⟩, hr⟩
      obtain ⟨w', hw', hq⟩ := (ih q).1 ⟨r, hturns, hr⟩
      obtain ⟨w, hw, hp⟩ := (h p _).1 ⟨q, hfirst, hq⟩
      exact ⟨_, ⟨w, hw, w', hw', rfl⟩, by rw [hp, List.append_assoc]⟩
    · rintro ⟨_, ⟨w, hw, w', hw', rfl⟩, hp⟩
      rw [List.append_assoc] at hp
      obtain ⟨q, hfirst, hq⟩ := (h p _).2 ⟨w, hw, hp⟩
      obtain ⟨r, hturns, hr⟩ := (ih q).2 ⟨w', hw', hq⟩
      exact ⟨r, ⟨q, hfirst, hturns⟩, hr⟩

/-- What an expression takes does not depend on what stands in front of it or behind it. -/
theorem exists_matches_iff_mem_language (ha : a.IsPlain) (p : Place) (rest : List Char) :
    (∃ q, a.Matches p q ∧ q.behind = rest) ↔ ∃ w ∈ a.language, p.behind = w ++ rest := by
  induction a generalizing p rest with
  | empty => simp [Node.Matches, Node.language, Language.mem_one]
  | mark m => simp [Node.Matches, Node.language, Language.mem_one]
  | anchor c => exact ha.elim
  | chars c =>
    constructor
    · rintro ⟨_, ⟨d, s, hd, hp, rfl⟩, rfl⟩
      exact ⟨[d], ⟨d, hd, rfl⟩, hp⟩
    · rintro ⟨_, ⟨d, hd, rfl⟩, hp⟩
      exact ⟨_, ⟨d, rest, hd, hp, rfl⟩, rfl⟩
  | seq a b iha ihb =>
    simp only [Node.Matches, Node.language, Language.mem_mul]
    constructor
    · rintro ⟨r, ⟨q, hfirst, hsecond⟩, hr⟩
      obtain ⟨w', hw', hq⟩ := (ihb ha.2 q rest).1 ⟨r, hsecond, hr⟩
      obtain ⟨w, hw, hp⟩ := (iha ha.1 p _).1 ⟨q, hfirst, hq⟩
      exact ⟨_, ⟨w, hw, w', hw', rfl⟩, by rw [hp, List.append_assoc]⟩
    · rintro ⟨_, ⟨w, hw, w', hw', rfl⟩, hp⟩
      rw [List.append_assoc] at hp
      obtain ⟨q, hfirst, hq⟩ := (iha ha.1 p _).2 ⟨w, hw, hp⟩
      obtain ⟨r, hsecond, hr⟩ := (ihb ha.2 q rest).2 ⟨w', hw', hq⟩
      exact ⟨r, ⟨q, hfirst, hsecond⟩, hr⟩
  | alt a b iha ihb =>
    simp only [Node.Matches, Node.language, Language.mem_add, or_and_right, exists_or,
      iha ha.1 p rest, ihb ha.2 p rest]
  | times lo hi greedy a ih =>
    have hturns := exists_turns_iff_mem_pow (ih ha)
    constructor
    · rintro ⟨q, ⟨n, hn, hmatch⟩, hq⟩
      obtain ⟨w, hw, hp⟩ := (hturns n p rest).1 ⟨q, hmatch, hq⟩
      exact ⟨w, ⟨n, hn, hw⟩, hp⟩
    · rintro ⟨w, ⟨n, hn, hw⟩, hp⟩
      obtain ⟨q, hmatch, hq⟩ := (hturns n p rest).2 ⟨w, hw, hp⟩
      exact ⟨q, ⟨n, hn, hmatch⟩, hq⟩

/-- The language of parts one after the other. -/
def languageOf (as : List Node) : Language Char :=
  (as.map Node.language).prod

@[simp] lemma languageOf_nil : languageOf [] = 1 := rfl

@[simp] lemma languageOf_cons : languageOf (a :: as) = a.language * languageOf as :=
  List.prod_cons

@[simp] lemma languageOf_append (as bs : List Node) :
    languageOf (as ++ bs) = languageOf as * languageOf bs := by
  simp [languageOf]

lemma mem_languageOf_cons :
    s ∈ languageOf (a :: as) ↔ ∃ w ∈ a.language, ∃ t ∈ languageOf as, s = w ++ t := by
  simp only [languageOf_cons, Language.mem_mul, eq_comm]

lemma mem_languageOf_singleton : s ∈ languageOf [a] ↔ s ∈ a.language := by
  simp

/-- A group takes the texts of its expression. -/
@[simp] lemma language_named (a : Node) (name : String) : (a.named name).language = a.language :=
  (one_mul _).trans (mul_one a.language)

lemma language_seqOf : (Node.seqOf as).language = languageOf as := by
  induction as with
  | nil => rfl
  | cons a as ih =>
    cases as with
    | nil => simp [Node.seqOf]
    | cons b as => rw [Node.seqOf, Node.language, ih, ← languageOf_cons]

lemma isPlain_seqOf (h : ∀ a ∈ as, a.IsPlain) : (Node.seqOf as).IsPlain := by
  induction as with
  | nil => trivial
  | cons a as ih =>
    obtain ⟨ha, has⟩ := List.forall_mem_cons.1 h
    cases as with
    | nil => exact ha
    | cons b as => exact ⟨ha, ih has⟩

lemma mem_language_altOf (h : as ≠ []) :
    w ∈ (Node.altOf as).language ↔ ∃ a ∈ as, w ∈ a.language := by
  induction as with
  | nil => exact absurd rfl h
  | cons a as ih =>
    cases as with
    | nil => simp [Node.altOf]
    | cons b as =>
      simp only [Node.altOf, Node.language, Language.mem_add, ih (List.cons_ne_nil b as),
        List.exists_mem_cons_iff (w ∈ Node.language ·)]

/-! ### Words -/

lemma language_charNode (c : Char) : (charNode {} c).language = {[c]} := by
  ext w
  change (∃ d, (CharClass.single c).contains d ∧ w = [d]) ↔ w = [c]
  simp [contains_single]

/-- The expressions of characters that stand for themselves. -/
def spelled (w : List Char) : List Node := w.map (charNode {})

/-- Characters that stand for themselves take just their own text. -/
lemma languageOf_spelled (w : List Char) : languageOf (spelled w) = {w} := by
  induction w with
  | nil => rfl
  | cons c w ih =>
    rw [spelled, List.map_cons, languageOf_cons, language_charNode, ← spelled, ih]
    ext s
    simp only [Language.mem_mul]
    constructor
    · rintro ⟨_, rfl, _, rfl, rfl⟩
      rfl
    · rintro rfl
      exact ⟨[c], rfl, w, rfl, rfl⟩

lemma mem_languageOf_spelled : s ∈ languageOf (spelled w) ↔ s = w := by
  rw [languageOf_spelled]
  rfl

lemma mem_languageOf_spelled_append :
    s ∈ languageOf (spelled w ++ as) ↔ ∃ t ∈ languageOf as, s = w ++ t := by
  rw [languageOf_append, languageOf_spelled, Language.mem_mul]
  constructor
  · rintro ⟨_, rfl, t, ht, rfl⟩
    exact ⟨t, ht, rfl⟩
  · rintro ⟨t, ht, rfl⟩
    exact ⟨w, rfl, t, ht, rfl⟩

lemma mem_language_wordNode : s ∈ (wordNode {} w).language ↔ s = w := by
  rw [wordNode, language_seqOf]
  exact mem_languageOf_spelled

/-- A choice of words takes these words. -/
lemma mem_language_words {ws : List (List Char)} (h : ws ≠ []) :
    s ∈ (Node.altOf (ws.map (wordNode {}))).language ↔ s ∈ ws := by
  rw [mem_language_altOf (by simpa using h)]
  simp [mem_language_wordNode]

/-! ### Repeated classes -/

lemma mem_pow_chars {c : CharClass} {n : Nat} :
    w ∈ (Node.chars c).language ^ n ↔ w.length = n ∧ ∀ d ∈ w, c.contains d := by
  induction n generalizing w with
  | zero =>
    rw [pow_zero, Language.mem_one, List.length_eq_zero_iff]
    constructor
    · rintro rfl
      simp
    · exact And.left
  | succ n ih =>
    simp only [pow_succ', Language.mem_mul, ih]
    constructor
    · rintro ⟨_, ⟨d, hd, rfl⟩, w, ⟨hlength, hw⟩, rfl⟩
      exact ⟨congrArg (· + 1) hlength, List.forall_mem_cons.2 ⟨hd, hw⟩⟩
    · rintro ⟨hlength, hw⟩
      obtain ⟨d, w, rfl⟩ := List.exists_cons_of_length_eq_add_one hlength
      obtain ⟨hd, hw⟩ := List.forall_mem_cons.1 hw
      exact ⟨[d], ⟨d, hd, rfl⟩, w, ⟨Nat.succ.inj hlength, hw⟩, rfl⟩

lemma mem_language_exactly {c : CharClass} {n : Nat} {greedy : Bool} :
    w ∈ (Node.times n (some n) greedy (.chars c)).language ↔
      w.length = n ∧ ∀ d ∈ w, c.contains d := by
  have hallows : ∀ k, Allows n (some n) k ↔ k = n := by
    intro k
    simp only [Allows, Option.some.injEq, forall_eq']
    omega
  change (∃ k, Allows n (some n) k ∧ w ∈ (Node.chars c).language ^ k) ↔ _
  simp only [hallows, exists_eq_left, mem_pow_chars]

lemma mem_language_any {c : CharClass} {greedy : Bool} :
    w ∈ (Node.times 0 none greedy (.chars c)).language ↔ ∀ d ∈ w, c.contains d := by
  constructor
  · rintro ⟨n, -, hw⟩
    exact (mem_pow_chars.1 hw).2
  · intro hw
    exact ⟨w.length, allows_none (Nat.zero_le _), mem_pow_chars.2 ⟨rfl, hw⟩⟩

/-- What may be missing is missing or there. -/
lemma mem_language_optional {greedy : Bool} :
    w ∈ (Node.times 0 (some 1) greedy a).language ↔ w = [] ∨ w ∈ a.language := by
  have hallows : ∀ k, Allows 0 (some 1) k ↔ k = 0 ∨ k = 1 := by
    intro k
    simp only [Allows, Option.some.injEq, forall_eq']
    omega
  change (∃ k, Allows 0 (some 1) k ∧ w ∈ a.language ^ k) ↔ _
  simp only [hallows, or_and_right, exists_or, exists_eq_left, pow_zero, pow_one, Language.mem_one]

/-! ### Whole texts -/

/-- The parts take a whole text together. -/
theorem exists_isIn_matches_whole_iff (hparts : ∀ a ∈ parts, a.IsPlain) :
    (∃ p q, p.IsIn s ∧ (Node.whole parts).Matches p q) ↔ s ∈ languageOf parts := by
  have hspans := exists_matches_iff_mem_language (isPlain_seqOf hparts) ⟨none, s⟩ []
  simp only [language_seqOf, matches_seqOf, List.append_nil, exists_eq_right'] at hspans
  rw [← hspans]
  simp only [matches_whole_iff]
  constructor
  · rintro ⟨⟨_, _⟩, q, hp, rfl, hmatch, hend⟩
    obtain rfl := hp.behind_eq rfl
    exact ⟨q, hmatch, hend⟩
  · rintro ⟨q, hmatch, hend⟩
    exact ⟨_, q, ⟨[], rfl, rfl⟩, rfl, hmatch, hend⟩

end Disclosure.Regex
