import Mathlib.Data.List.Basic
import Mathlib.Tactic.SplitIfs
import Disclosure.Regex.Match

/-!
# What expressions match

An expression matches the text between two places (`Node.Matches`). The outcomes of an expression at
a place are its first steps from there, and following them to their ends leads to the places that
the expression matches up to, and to no others (`leadTo_outcomes_iff`, `leadTo_outcomesOf_iff`).
-/

namespace Disclosure.Regex

/-! ### Places -/

/-- A place in a text: the character in front of it, if there is one, and the text behind it. -/
structure Place where
  before : Option Char
  behind : List Char

/-- The character behind a place. -/
def Place.after (p : Place) : Option Char :=
  p.behind.head?

lemma Place.after_eq_none_iff {p : Place} : p.after = none ↔ p.behind = [] :=
  List.head?_eq_none_iff

/-! ### Repetitions -/

/-- Whether `n` steps of a relation lead from one place to another. -/
def Turns (R : Place → Place → Prop) : Nat → Place → Place → Prop
  | 0, p, q => p = q
  | n + 1, p, r => ∃ q, R p q ∧ Turns R n q r

/--
Whether a repetition may have `n` turns: at least `lo` and at most `hi`. A lower bound above the
upper one counts as equal to it.
-/
def Allows (lo : Nat) (hi : Option Nat) (n : Nat) : Prop :=
  (lo ≤ n ∨ hi = some n) ∧ ∀ h, hi = some h → n ≤ h

lemma allows_none {lo n : Nat} (h : lo ≤ n) : Allows lo none n :=
  ⟨.inl h, fun _ hsome => absurd hsome (Option.some_ne_none _).symm⟩

lemma allows_zero_iff {lo : Nat} {hi : Option Nat} : Allows lo hi 0 ↔ lo = 0 ∨ hi = some 0 := by
  simp [Allows]

lemma allows_succ_iff {lo n : Nat} {hi : Option Nat} (hhi : hi ≠ some 0) :
    Allows lo hi (n + 1) ↔ Allows (lo - 1) (hi.map (· - 1)) n := by
  cases hi with
  | none =>
    simp only [Allows, Option.map_none, reduceCtorEq, or_false, false_implies, implies_true,
      and_true]
    omega
  | some h =>
    have hpos : h ≠ 0 := fun h0 => hhi (h0 ▸ rfl)
    simp only [Allows, Option.map_some, Option.some.injEq, forall_eq']
    omega

/-- Turns that lead nowhere fill a repetition up. -/
lemma exists_allows_add {n : Nat} {hi : Option Nat} (h : Allows 0 hi n) (lo : Nat) :
    ∃ k, Allows lo hi (k + n) := by
  cases hi with
  | none => exact ⟨lo, allows_none (Nat.le_add_right lo n)⟩
  | some bound =>
    have hle : n ≤ bound := h.2 bound rfl
    have hsum : bound - n + n = bound := Nat.sub_add_cancel hle
    refine ⟨bound - n, .inr (by rw [hsum]), ?_⟩
    rintro _ ⟨⟩
    exact Nat.le_of_eq hsum

lemma Allows.pred_of_lt {lo n k : Nat} {hi : Option Nat} (h : Allows lo hi n) (hk : k < n) :
    Allows 0 (hi.map (· - 1)) k := by
  refine ⟨.inl k.zero_le, fun bound hbound => ?_⟩
  obtain ⟨top, rfl, rfl⟩ := Option.map_eq_some_iff.1 hbound
  exact Nat.le_sub_one_of_lt (Nat.lt_of_lt_of_le hk (h.2 top rfl))

section Turns

variable {R : Place → Place → Prop} {Move : Place → Prop} {p q r : Place} {n : Nat}

lemma turns_add (h : R p p) (k : Nat) (hn : Turns R n p q) : Turns R (k + n) p q := by
  induction k with
  | zero => rwa [Nat.zero_add]
  | succ k ih =>
    rw [Nat.succ_add]
    exact ⟨p, h, ih⟩

/-- Turns that lead nowhere in the beginning can be left out. -/
lemma turns_cases (hfirst : ∀ q, R p q → p = q ∨ Move q) (h : Turns R n p r) :
    p = r ∨ ∃ q k, k < n ∧ Move q ∧ Turns R k q r := by
  induction n with
  | zero => exact .inl h
  | succ n ih =>
    obtain ⟨q, hpq, hqr⟩ := h
    rcases hfirst q hpq with rfl | hmove
    · rcases ih hqr with hpr | ⟨q', k, hk, hmove, hturns⟩
      · exact .inl hpr
      · exact .inr ⟨q', k, Nat.lt_succ_of_lt hk, hmove, hturns⟩
    · exact .inr ⟨q, n, Nat.lt_succ_self n, hmove, hqr⟩

end Turns

/-! ### Matches -/

/-- Whether an expression matches the text between two places. -/
def Node.Matches : Node → Place → Place → Prop
  | .empty, p, q => p = q
  | .chars a, p, q => ∃ c s, a.contains c ∧ p.behind = c :: s ∧ q = ⟨some c, s⟩
  | .anchor a, p, q => a.holds p.before p.after ∧ p = q
  | .mark _, p, q => p = q
  | .seq a b, p, r => ∃ q, a.Matches p q ∧ b.Matches q r
  | .alt a b, p, q => a.Matches p q ∨ b.Matches p q
  | .times lo hi _ a, p, q => ∃ n, Allows lo hi n ∧ Turns a.Matches n p q

/-- Whether expressions one after the other match the text between two places. -/
def MatchesAll : List Node → Place → Place → Prop
  | [], p, q => p = q
  | a :: rest, p, r => ∃ q, a.Matches p q ∧ MatchesAll rest q r

variable {p q r : Place} {a b : Node} {as bs more : List Node} {os os' after : List Outcome}

lemma matchesAll_singleton : MatchesAll [a] p q ↔ a.Matches p q := by
  simp [MatchesAll]

lemma matchesAll_append :
    MatchesAll (as ++ bs) p r ↔ ∃ q, MatchesAll as p q ∧ MatchesAll bs q r := by
  induction as generalizing p with
  | nil => simp [MatchesAll]
  | cons a as ih =>
    simp only [List.cons_append, MatchesAll, ih]
    constructor
    · rintro ⟨q, ha, q', has, hbs⟩
      exact ⟨q', ⟨q, ha, has⟩, hbs⟩
    · rintro ⟨q', ⟨q, ha, has⟩, hbs⟩
      exact ⟨q, ha, q', has, hbs⟩

/-- Parts one after the other match as their sequence does. -/
lemma matches_seqOf : (Node.seqOf as).Matches p q ↔ MatchesAll as p q := by
  induction as generalizing p with
  | nil => rfl
  | cons a as ih =>
    cases as with
    | nil => exact matchesAll_singleton.symm
    | cons b as => simp only [Node.seqOf, Node.Matches, MatchesAll, ih]

/-- A choice matches what one of its alternatives does; there has to be one. -/
lemma matches_altOf (h : as ≠ []) : (Node.altOf as).Matches p q ↔ ∃ a ∈ as, a.Matches p q := by
  induction as with
  | nil => exact absurd rfl h
  | cons a as ih =>
    cases as with
    | nil => simp [Node.altOf]
    | cons b as =>
      simp only [Node.altOf, Node.Matches, ih (List.cons_ne_nil b as),
        List.exists_mem_cons_iff (Node.Matches · p q)]

/-- A group matches what its expression does. -/
lemma matches_named {name : String} : (a.named name).Matches p q ↔ a.Matches p q := by
  simp [Node.named, Node.Matches]

/-! ### Outcomes -/

/-- Whether an outcome at a place can be followed up to another place. -/
def Outcome.LeadsTo (p : Place) : Outcome → Place → Prop
  | .done _, q => p = q
  | .next _ rest, q => ∃ c s, p.behind = c :: s ∧ MatchesAll rest ⟨some c, s⟩ q

/-- Whether one of the outcomes at a place can be followed up to another place. -/
def LeadTo (os : List Outcome) (p q : Place) : Prop :=
  ∃ o ∈ os, o.LeadsTo p q

lemma leadTo_cons {o : Outcome} : LeadTo (o :: os) p q ↔ o.LeadsTo p q ∨ LeadTo os p q := by
  simp [LeadTo]

lemma leadTo_append : LeadTo (os ++ os') p q ↔ LeadTo os p q ∨ LeadTo os' p q := by
  simp [LeadTo, or_and_right, exists_or]

/-- Whether one of the outcomes that take a character can be followed up to another place. -/
def MoveTo (os : List Outcome) (p q : Place) : Prop :=
  ∃ marks rest, .next marks rest ∈ os ∧ (Outcome.next marks rest).LeadsTo p q

lemma leadTo_iff : LeadTo os p q ↔ ((∃ marks, .done marks ∈ os) ∧ p = q) ∨ MoveTo os p q := by
  constructor
  · rintro ⟨o, ho, hlead⟩
    cases o with
    | done marks => exact .inl ⟨⟨marks, ho⟩, hlead⟩
    | next marks rest => exact .inr ⟨marks, rest, ho, hlead⟩
  · rintro (⟨⟨marks, ho⟩, hpq⟩ | ⟨marks, rest, ho, hlead⟩)
    · exact ⟨_, ho, hpq⟩
    · exact ⟨_, ho, hlead⟩

lemma leadTo_filterMap_append? :
    LeadTo (os.filterMap (Outcome.append? more)) p r ↔
      ∃ q, MoveTo os p q ∧ MatchesAll more q r := by
  simp only [LeadTo, List.mem_filterMap]
  constructor
  · rintro ⟨o, ⟨o', ho', heq⟩, hlead⟩
    cases o' with
    | done marks => cases heq
    | next marks rest =>
      cases heq
      obtain ⟨c, s, hbehind, hmatches⟩ := hlead
      obtain ⟨q, hrest, hmore⟩ := matchesAll_append.1 hmatches
      exact ⟨q, ⟨marks, rest, ho', c, s, hbehind, hrest⟩, hmore⟩
  · rintro ⟨q, ⟨marks, rest, ho, c, s, hbehind, hrest⟩, hmore⟩
    exact ⟨_, ⟨_, ho, rfl⟩, c, s, hbehind, matchesAll_append.2 ⟨q, hrest, hmore⟩⟩

lemma leadTo_distinct : LeadTo (Outcome.distinct os) p q ↔ LeadTo os p q := by
  induction os with
  | nil => rfl
  | cons o os ih =>
    cases o with
    | next marks rest => rw [Outcome.distinct, leadTo_cons, leadTo_cons, ih]
    | done marks =>
      rw [Outcome.distinct, leadTo_cons, leadTo_cons]
      constructor
      · rintro (h | ⟨o, ho, hlead⟩)
        · exact .inl h
        · exact .inr ⟨o, (List.mem_filter.1 ho).1, hlead⟩
      · rintro (h | ⟨o, ho, hlead⟩)
        · exact .inl h
        · cases o with
          | done marks' => exact .inl hlead
          | next marks' rest => exact .inr ⟨_, List.mem_filter.2 ⟨ho, rfl⟩, hlead⟩

lemma leadTo_map_withMarks (marks : List Mark) :
    LeadTo (os.map (Outcome.withMarks marks)) p q ↔ LeadTo os p q := by
  simp only [LeadTo, List.mem_map, exists_exists_and_eq_and]
  refine exists_congr fun o => and_congr_right fun _ => ?_
  cases o <;> rfl

lemma leadTo_follow (hafter : ∀ r, LeadTo after p r ↔ MatchesAll more p r) :
    LeadTo (Outcome.follow more after os) p r ↔ ∃ q, LeadTo os p q ∧ MatchesAll more q r := by
  induction os with
  | nil => simp [Outcome.follow, LeadTo]
  | cons o os ih =>
    cases o with
    | next marks rest =>
      rw [Outcome.follow, leadTo_cons, ih]
      simp only [leadTo_cons, or_and_right, exists_or]
      refine or_congr_left ?_
      simp only [Outcome.LeadsTo, matchesAll_append]
      constructor
      · rintro ⟨c, s, hbehind, q, hrest, hmore⟩
        exact ⟨q, ⟨c, s, hbehind, hrest⟩, hmore⟩
      · rintro ⟨q, ⟨c, s, hbehind, hrest⟩, hmore⟩
        exact ⟨c, s, hbehind, q, hrest, hmore⟩
    | done marks =>
      rw [Outcome.follow, leadTo_append, leadTo_map_withMarks, hafter, leadTo_filterMap_append?]
      simp only [leadTo_cons, or_and_right, exists_or]
      constructor
      · rintro (hmore | ⟨q, hmove, hmore⟩)
        · exact .inl ⟨p, rfl, hmore⟩
        · exact .inr ⟨q, leadTo_iff.2 (.inr hmove), hmore⟩
      · rintro (⟨q, hpq, hmore⟩ | ⟨q, hlead, hmore⟩)
        · obtain rfl : p = q := hpq
          exact .inl hmore
        · rcases leadTo_iff.1 hlead with ⟨-, rfl⟩ | hmove
          · exact .inl hmore
          · exact .inr ⟨q, hmove, hmore⟩

/-! ### Outcomes of expressions -/

lemma isSome_findSome?_done? :
    (os.findSome? Outcome.done?).isSome ↔ ∃ marks, .done marks ∈ os := by
  rw [List.findSome?_isSome_iff]
  constructor
  · rintro ⟨o, ho, hdone⟩
    cases o with
    | done marks => exact ⟨marks, ho⟩
    | next marks rest => cases hdone
  · rintro ⟨marks, ho⟩
    exact ⟨_, ho, rfl⟩

/-- The outcomes of a repetition are to take a turn, which takes a character, and to leave. -/
lemma leadTo_times {lo : Nat} {hi : Option Nat} {greedy : Bool} (hhi : hi ≠ some 0)
    {idle : Option (List Mark)}
    (hidle : (a.outcomes p.before p.after).findSome? Outcome.done? = idle) :
    LeadTo ((Node.times lo hi greedy a).outcomes p.before p.after) p r ↔
      (∃ q, MoveTo (a.outcomes p.before p.after) p q ∧
        (Node.times (if idle.isSome then 0 else lo - 1) (hi.map (· - 1)) greedy a).Matches q r) ∨
      (lo = 0 ∨ idle.isSome) ∧ p = r := by
  have hleave : LeadTo (if lo = 0 then [.done []] else idle.toList.map .done) p r ↔
      (lo = 0 ∨ idle.isSome) ∧ p = r := by
    cases idle <;> split_ifs with hlo <;> simp [LeadTo, Outcome.LeadsTo, hlo]
  simp only [Node.outcomes, if_neg hhi, hidle]
  cases greedy with
  | true =>
    rw [if_pos rfl, leadTo_append, leadTo_filterMap_append?, hleave]
    simp only [matchesAll_singleton]
  | false =>
    rw [if_neg Bool.false_ne_true, leadTo_append, leadTo_filterMap_append?, hleave, or_comm]
    simp only [matchesAll_singleton]

/--
The outcomes of a repetition lead to where its turns do. Turns of the body that take no character
can be left out in the beginning; where there are such turns, they make up for those still due.
-/
lemma leadTo_times_iff {lo : Nat} {hi : Option Nat} {greedy : Bool}
    (ih : ∀ q, LeadTo (a.outcomes p.before p.after) p q ↔ a.Matches p q) :
    LeadTo ((Node.times lo hi greedy a).outcomes p.before p.after) p r ↔
      (Node.times lo hi greedy a).Matches p r := by
  by_cases hhi : hi = some 0
  · subst hhi
    simp only [Node.outcomes, if_pos, LeadTo, List.mem_singleton, exists_eq_left, Outcome.LeadsTo,
      Node.Matches]
    constructor
    · rintro rfl
      exact ⟨0, allows_zero_iff.2 (.inr rfl), rfl⟩
    · rintro ⟨n, hn, hturns⟩
      obtain rfl : n = 0 := Nat.le_zero.1 (hn.2 0 rfl)
      exact hturns
  · obtain ⟨idle, hidle⟩ :
        ∃ idle, (a.outcomes p.before p.after).findSome? Outcome.done? = idle := ⟨_, rfl⟩
    have hbody : ∀ q, a.Matches p q ↔
        idle.isSome ∧ p = q ∨ MoveTo (a.outcomes p.before p.after) p q := by
      intro q
      rw [← ih, leadTo_iff, ← isSome_findSome?_done?, hidle]
    rw [leadTo_times hhi hidle]
    simp only [Node.Matches]
    constructor
    · rintro (⟨q, hmove, n, hn, hturns⟩ | ⟨hleave, rfl⟩)
      · have hfirst : a.Matches p q := (hbody q).2 (.inr hmove)
        cases idle with
        | none => exact ⟨n + 1, (allows_succ_iff hhi).2 hn, q, hfirst, hturns⟩
        | some marks =>
          obtain ⟨k, hk⟩ := exists_allows_add hn (lo - 1)
          have hidling : a.Matches p p := (hbody p).2 (.inl ⟨rfl, rfl⟩)
          have hall : Turns a.Matches (k + (n + 1)) p r := turns_add hidling k ⟨q, hfirst, hturns⟩
          exact ⟨k + n + 1, (allows_succ_iff hhi).2 hk, hall⟩
      · cases idle with
        | none => exact ⟨0, allows_zero_iff.2 (.inl (by simpa using hleave)), rfl⟩
        | some marks =>
          obtain ⟨k, hk⟩ := exists_allows_add (allows_zero_iff.2 (.inl rfl)) lo
          have hidling : a.Matches p p := (hbody p).2 (.inl ⟨rfl, rfl⟩)
          exact ⟨k + 0, hk, turns_add hidling k rfl⟩
    · rintro ⟨n, hn, hturns⟩
      cases idle with
      | none =>
        cases n with
        | zero => exact .inr ⟨.inl ((allows_zero_iff.1 hn).resolve_right hhi), hturns⟩
        | succ n =>
          obtain ⟨q, hfirst, hturns⟩ := hturns
          have hmove : MoveTo (a.outcomes p.before p.after) p q := by simpa using (hbody q).1 hfirst
          exact .inl ⟨q, hmove, n, (allows_succ_iff hhi).1 hn, hturns⟩
      | some marks =>
        have hfirst : ∀ q, a.Matches p q → p = q ∨ MoveTo (a.outcomes p.before p.after) p q :=
          fun q hq => ((hbody q).1 hq).imp_left And.right
        rcases turns_cases hfirst hturns with rfl | ⟨q, k, hk, hmove, hturns⟩
        · exact .inr ⟨.inr rfl, rfl⟩
        · exact .inl ⟨q, hmove, k, hn.pred_of_lt hk, hturns⟩

/-- The outcomes of an expression lead to the places that it matches up to. -/
theorem leadTo_outcomes_iff (a : Node) (p q : Place) :
    LeadTo (a.outcomes p.before p.after) p q ↔ a.Matches p q := by
  induction a generalizing q with
  | empty => simp [Node.outcomes, LeadTo, Outcome.LeadsTo, Node.Matches]
  | chars a =>
    obtain ⟨before, behind⟩ := p
    cases behind with
    | nil => simp [Node.outcomes, Place.after, LeadTo, Node.Matches]
    | cons c s =>
      simp only [Node.outcomes, Place.after, List.head?_cons, Option.any_some, Node.Matches]
      split_ifs with hc
      · simp [LeadTo, Outcome.LeadsTo, MatchesAll, hc, @eq_comm _ q]
      · simp [LeadTo, hc]
  | anchor a =>
    rw [Node.outcomes, Node.Matches]
    split_ifs with hholds <;> simp [LeadTo, Outcome.LeadsTo, hholds]
  | mark m => simp [Node.outcomes, LeadTo, Outcome.LeadsTo, Node.Matches]
  | seq a b iha ihb =>
    have hb : ∀ r, LeadTo (b.outcomes p.before p.after) p r ↔ MatchesAll [b] p r := by
      intro r
      rw [ihb, matchesAll_singleton]
    rw [Node.outcomes, leadTo_follow hb, Node.Matches]
    simp only [iha, matchesAll_singleton]
  | alt a b iha ihb => rw [Node.outcomes, leadTo_distinct, leadTo_append, iha, ihb, Node.Matches]
  | times lo hi greedy a ih => exact leadTo_times_iff ih

/-- The outcomes of expressions one after the other lead to the places that they match up to. -/
theorem leadTo_outcomesOf_iff (as : List Node) (p q : Place) :
    LeadTo (outcomesOf p.before p.after as) p q ↔ MatchesAll as p q := by
  induction as generalizing q with
  | nil => simp [outcomesOf, LeadTo, Outcome.LeadsTo, MatchesAll]
  | cons a as ih =>
    rw [outcomesOf, leadTo_follow ih, MatchesAll]
    simp only [leadTo_outcomes_iff]

/-! ### Classes -/

lemma contains_single {c : Char} (d : Char) : (CharClass.single d).contains c = decide (c = d) := by
  have hiff : (d.toNat ≤ c.toNat ∧ c.toNat ≤ d.toNat) ↔ c = d := by
    rw [← Nat.le_antisymm_iff, Char.toNat_inj, eq_comm]
  simp [CharClass.single, CharClass.contains, Unicode.Ranges.contains, ← hiff]

/-- A repeated class matches characters of the class. -/
lemma exists_of_turns_chars {c : CharClass} {n : Nat} (h : Turns (Node.chars c).Matches n p q) :
    ∃ cs, p.behind = cs ++ q.behind ∧ ∀ d ∈ cs, c.contains d := by
  induction n generalizing p with
  | zero => exact ⟨[], congrArg Place.behind h, List.forall_mem_nil _⟩
  | succ n ih =>
    obtain ⟨_, ⟨d, s, hd, hbehind, rfl⟩, hturns⟩ := h
    obtain ⟨cs, rfl, hcs⟩ := ih hturns
    exact ⟨d :: cs, hbehind, List.forall_mem_cons.2 ⟨hd, hcs⟩⟩

/-- A repeated class matches all characters of the class. -/
lemma exists_turns_chars {c : CharClass} {cs : List Char} (hcs : ∀ d ∈ cs, c.contains d)
    (before : Option Char) (rest : List Char) :
    ∃ last, Turns (Node.chars c).Matches cs.length ⟨before, cs ++ rest⟩ ⟨last, rest⟩ := by
  induction cs generalizing before with
  | nil => exact ⟨before, rfl⟩
  | cons d cs ih =>
    obtain ⟨hd, hcs⟩ := List.forall_mem_cons.1 hcs
    obtain ⟨last, hturns⟩ := ih hcs (some d)
    exact ⟨last, _, ⟨d, cs ++ rest, hd, rfl, rfl⟩, hturns⟩

/-! ### Whole texts -/

/-- Parts one after the other from the start of a text to its end. -/
def Node.whole (parts : List Node) : Node :=
  .seqOf (.anchor .textStart :: (parts ++ [.anchor .textEnd]))

lemma matches_whole_iff : (Node.whole as).Matches p q ↔
    p.before = none ∧ MatchesAll as p q ∧ q.behind = [] := by
  rw [Node.whole, matches_seqOf]
  simp only [MatchesAll, matchesAll_append, Node.Matches, Anchor.holds, Option.isNone_iff_eq_none,
    Place.after_eq_none_iff]
  constructor
  · rintro ⟨_, ⟨hstart, rfl⟩, _, hparts, _, ⟨hbehind, rfl⟩, rfl⟩
    exact ⟨hstart, hparts, hbehind⟩
  · rintro ⟨hstart, hparts, hbehind⟩
    exact ⟨p, ⟨hstart, rfl⟩, q, hparts, q, ⟨hbehind, rfl⟩, rfl⟩

/-- Whether some match of an expression spans a text from its very start to its very end. -/
def Node.Spans (a : Node) (s : List Char) : Prop :=
  ∃ q : Place, a.Matches ⟨none, s⟩ q ∧ q.behind = []

end Disclosure.Regex
