import Disclosure.Regex.Pattern
import Disclosure.Proofs.Regex.Matching

/-!
# What searches find

The outcomes of expressions, tried one after the other in order of preference, give the preferred
way to match at a place (`preferred?`). A search follows all ways side by side, equal ones once, and
gives up what comes after a complete one. It finds what trying the places of the text one after the
other finds (`search_eq_leftmost?`). So a text has a match if and only if the expression matches
from one of its places on (`isMatch_iff`), and a choice is settled by its first alternative that
matches at the place (`preferred?_altOf`).
-/

namespace Disclosure.Regex

/-! ### The preferred way -/

/-- The marks of an outcome at a place, given those of the preferred way to match what is left. -/
def Outcome.finish (s : List Char) (go : List Node → Option Captures) :
    Outcome → Option Captures
  | .done marks => some (passedAt s marks)
  | .next marks rest => (go rest).map (passedAt s marks ++ ·)

/-- The marks of the preferred way to match expressions one after the other, if there is one. -/
def preferred? (before : Option Char) (as : List Node) : List Char → Option Captures
  | [] => (outcomesOf before none as).findSome? (Outcome.finish [] fun _ => none)
  | c :: s => (outcomesOf before (some c) as).findSome?
      (Outcome.finish (c :: s) fun rest => preferred? (some c) rest s)

/-- The marks of the preferred way from the first place on at which an expression matches. -/
def leftmost? (start : Node) (before : Option Char) : List Char → Option Captures
  | [] => preferred? before [start] []
  | c :: s => (preferred? before [start] (c :: s)).or (leftmost? start (some c) s)

/-- The preferred way to match what is left behind the next character. -/
def goOn? : List Char → List Node → Option Captures
  | [], _ => none
  | c :: s, rest => preferred? (some c) rest s

variable {before after : Option Char} {as more : List Node} {a start : Node} {s : List Char}
  {go : List Node → Option Captures} {os : List Outcome} {p q : Place}

lemma preferred?_eq (before : Option Char) (as : List Node) (s : List Char) :
    preferred? before as s =
      (outcomesOf before s.head? as).findSome? (Outcome.finish s (goOn? s)) := by
  cases s <;> rfl

lemma findSome?_cons_eq_or {α β : Type} (f : α → Option β) (x : α) (xs : List α) :
    (x :: xs).findSome? f = (f x).or (xs.findSome? f) := by
  rw [List.findSome?_cons]
  cases f x <;> rfl

@[simp] lemma findSome?_finish_done (marks : List Mark) :
    (.done marks :: os).findSome? (Outcome.finish s go) = some (passedAt s marks) := rfl

@[simp] lemma findSome?_finish_next (marks : List Mark) (rest : List Node) :
    (.next marks rest :: os).findSome? (Outcome.finish s go) =
      ((go rest).map (passedAt s marks ++ ·)).or (os.findSome? (Outcome.finish s go)) :=
  findSome?_cons_eq_or _ _ _

lemma findSome?_finish_distinct :
    (Outcome.distinct os).findSome? (Outcome.finish s go) =
      os.findSome? (Outcome.finish s go) := by
  induction os with
  | nil => rfl
  | cons o os ih =>
    cases o with
    | done marks => rfl
    | next marks rest => simp [Outcome.distinct, ih]

lemma findSome?_finish_follow_nil :
    (Outcome.follow [] [.done []] os).findSome? (Outcome.finish s go) =
      os.findSome? (Outcome.finish s go) := by
  induction os with
  | nil => rfl
  | cons o os ih =>
    cases o with
    | done marks => simp [Outcome.follow, Outcome.withMarks]
    | next marks rest => simp [Outcome.follow, ih]

lemma preferred?_singleton (before : Option Char) (a : Node) (s : List Char) :
    preferred? before [a] s =
      (a.outcomes before s.head?).findSome? (Outcome.finish s (goOn? s)) := by
  rw [preferred?_eq]
  exact findSome?_finish_follow_nil

/-- A choice is settled by its first alternative that matches; there has to be one. -/
theorem preferred?_altOf (h : as ≠ []) (before : Option Char) (s : List Char) :
    preferred? before [.altOf as] s = as.findSome? fun a => preferred? before [a] s := by
  induction as with
  | nil => exact absurd rfl h
  | cons a as ih =>
    cases as with
    | nil => simp [Node.altOf]
    | cons b as =>
      rw [findSome?_cons_eq_or, ← ih (List.cons_ne_nil b as)]
      simp only [preferred?_singleton, Node.altOf, Node.outcomes, findSome?_finish_distinct,
        List.findSome?_append]

/-- There is a preferred way if and only if the expressions match from the place on. -/
theorem isSome_preferred?_iff (as : List Node) (p : Place) :
    (preferred? p.before as p.behind).isSome ↔ ∃ q, MatchesAll as p q := by
  obtain ⟨before, behind⟩ := p
  simp only [← leadTo_outcomesOf_iff, LeadTo]
  rw [exists_comm, preferred?_eq, List.findSome?_isSome_iff]
  refine exists_congr fun o => ?_
  rw [exists_and_left]
  refine and_congr_right fun _ => ?_
  cases o with
  | done marks => simp [Outcome.finish, Outcome.LeadsTo]
  | next marks rest =>
    cases behind with
    | nil => simp [Outcome.finish, Outcome.LeadsTo, goOn?]
    | cons c s =>
      rw [Outcome.finish, Option.isSome_map, goOn?, isSome_preferred?_iff rest ⟨some c, s⟩]
      simp [Outcome.LeadsTo]
termination_by p.behind.length

/-! ### Following all ways side by side -/

/-- The marks of a way, given those of the preferred way to match what is left. -/
def Thread.finish (go : List Node → Option Captures) (t : Thread) : Option Captures :=
  (go t.rest).map (t.captures ++ ·)

/-- A way that is known already, or an equal one, does not become the first to be complete. -/
lemma findSome?_collect (s : List Char) (go : List Node → Option Captures) (captures : Captures)
    (known : List Thread) (os : List Outcome) :
    ((collect s captures known os).1.findSome? (Thread.finish go)).or
        (collect s captures known os).2 =
      (known.findSome? (Thread.finish go)).or
        ((os.findSome? (Outcome.finish s go)).map (captures ++ ·)) := by
  induction os generalizing known with
  | nil => rfl
  | cons o os ih =>
    cases o with
    | done marks => rw [collect, findSome?_finish_done, Option.map_some]
    | next marks rest =>
      rw [collect, findSome?_finish_next]
      split_ifs with hknown
      · rw [ih]
        cases hgo : go rest with
        | none => simp
        | some captures' =>
          have hfound : (known.findSome? (Thread.finish go)).isSome := by
            obtain ⟨t, ht, hrest⟩ := List.any_eq_true.1 hknown
            refine List.findSome?_isSome_iff.2 ⟨t, ht, ?_⟩
            rw [Thread.finish, of_decide_eq_true hrest, hgo]
            rfl
          rw [Option.or_of_isSome hfound, Option.or_of_isSome hfound]
      · rw [ih, List.findSome?_append, Option.or_assoc]
        congr 1
        cases hgo : go rest <;> simp [Thread.finish, hgo]

lemma findSome?_advance (go : List Node → Option Captures) (before : Option Char) (s : List Char)
    (known ts : List Thread) :
    ((advance before s known ts).1.findSome? (Thread.finish go)).or (advance before s known ts).2 =
      (known.findSome? (Thread.finish go)).or (ts.findSome? fun t =>
        ((outcomesOf before s.head? t.rest).findSome? (Outcome.finish s go)).map
          (t.captures ++ ·)) := by
  induction ts generalizing known with
  | nil => simp [advance]
  | cons t ts ih =>
    have hcollect := findSome?_collect s go t.captures known (outcomesOf before s.head? t.rest)
    rw [advance, findSome?_cons_eq_or, ← Option.or_assoc, ← hcollect]
    rcases collect s t.captures known (outcomesOf before s.head? t.rest) with
      ⟨known', _ | captures⟩
    · simp [ih]
    · simp

/-- A search goes on to try the places of the text as long as it has found nothing. -/
lemma findSome?_enter (g : List Node → Option Captures) (start : Node)
    (found : Option Captures) (threads : List Thread) :
    ((if found.isNone then threads ++ [⟨[], [start]⟩] else threads).findSome?
        (Thread.finish g)).or found =
      (threads.findSome? (Thread.finish g)).or (found.or (g [start])) := by
  cases found with
  | none =>
    rw [if_pos Option.isNone_none, List.findSome?_append, Option.or_none, Option.none_or]
    cases hg : g [start] <;> simp [Thread.finish, hg]
  | some captures => rfl

/-- The ways followed so far go before what has been found, and that before the places to come. -/
theorem search_eq (start : Node) (found : Option Captures) (threads : List Thread)
    (before : Option Char) (s : List Char) :
    search start found threads before s =
      (threads.findSome? (Thread.finish fun rest => preferred? before rest s)).or
        (found.or (leftmost? start before s)) := by
  induction s generalizing found threads before with
  | nil =>
    have henter := findSome?_enter (fun rest => preferred? before rest []) start found threads
    rw [search, leftmost?, ← henter]
    generalize (if found.isNone then threads ++ [⟨[], [start]⟩] else threads) = entered
    have hend := findSome?_advance (fun _ => none) before [] [] entered
    have hnone : ∀ ts : List Thread, ts.findSome? (Thread.finish fun _ => none) = none := by
      intro ts
      exact List.findSome?_eq_none_iff.2 fun _ _ => rfl
    rw [hnone, Option.none_or, List.findSome?_nil, Option.none_or] at hend
    rw [Option.orElse_eq_orElse, Option.orElse_eq_or, hend]
    rfl
  | cons c s ih =>
    have henter := findSome?_enter (fun rest => preferred? before rest (c :: s)) start found threads
    have hor : (threads.findSome? (Thread.finish fun rest => preferred? before rest (c :: s))).or
          (found.or (leftmost? start before (c :: s))) =
        ((threads.findSome? (Thread.finish fun rest => preferred? before rest (c :: s))).or
          (found.or (preferred? before [start] (c :: s)))).or (leftmost? start (some c) s) := by
      simp only [leftmost?, Option.or_assoc]
    rw [hor, ← henter, search]
    generalize (if found.isNone then threads ++ [⟨[], [start]⟩] else threads) = entered
    have hstep := findSome?_advance (fun rest => preferred? (some c) rest s) before (c :: s) []
      entered
    rw [List.findSome?_nil, Option.none_or] at hstep
    change _ = entered.findSome?
      (Thread.finish fun rest => preferred? before rest (c :: s)) at hstep
    rw [← hstep]
    rcases advance before (c :: s) [] entered with ⟨threads', complete⟩
    simp only [ih, Option.orElse_eq_orElse, Option.orElse_eq_or, Option.or_assoc]
    split_ifs with hstop
    · obtain ⟨hempty, hfound⟩ := Bool.and_eq_true_iff.1 hstop
      rw [List.isEmpty_iff.1 hempty, List.findSome?_nil, Option.none_or, ← Option.or_assoc,
        Option.or_of_isSome hfound]
    · rfl

theorem search_eq_leftmost? (start : Node) (s : List Char) :
    search start none [] none s = leftmost? start none s :=
  search_eq start none [] none s

/-! ### Places of a text -/

/-- Whether a place is one of a text. -/
def Place.IsIn (p : Place) (s : List Char) : Prop :=
  ∃ passed, s = passed ++ p.behind ∧ p.before = passed.getLast?

/-- The place without a character before it is the start of the text. -/
lemma Place.IsIn.behind_eq {p : Place} (h : p.IsIn s) (hstart : p.before = none) :
    p.behind = s := by
  obtain ⟨passed, rfl, hlast⟩ := h
  obtain rfl := List.getLast?_eq_none_iff.1 (hlast.symm.trans hstart)
  rfl

/-- The preferred way from the leftmost place is one from a place of the text. -/
lemma isSome_leftmost?_iff (start : Node) (before : Option Char) (s : List Char) :
    (leftmost? start before s).isSome ↔
      ∃ passed p q, s = passed ++ p.behind ∧ p.before = passed.getLast?.or before ∧
        start.Matches p q := by
  induction s generalizing before with
  | nil =>
    rw [leftmost?, isSome_preferred?_iff [start] ⟨before, []⟩]
    simp only [matchesAll_singleton, List.nil_eq_append_iff]
    constructor
    · rintro ⟨q, hmatch⟩
      exact ⟨[], _, q, ⟨rfl, rfl⟩, rfl, hmatch⟩
    · rintro ⟨_, ⟨_, _⟩, q, ⟨rfl, rfl⟩, rfl, hmatch⟩
      exact ⟨q, hmatch⟩
  | cons c s ih =>
    have hlast : ∀ passed : List Char,
        (c :: passed).getLast?.or before = passed.getLast?.or (some c) := by
      intro passed
      cases h : passed.getLast? <;> simp [List.getLast?_cons, h]
    rw [leftmost?, Option.isSome_or, Bool.or_eq_true,
      isSome_preferred?_iff [start] ⟨before, c :: s⟩, ih]
    simp only [matchesAll_singleton]
    constructor
    · rintro (⟨q, hmatch⟩ | ⟨passed, p, q, rfl, hbefore, hmatch⟩)
      · exact ⟨[], _, q, rfl, rfl, hmatch⟩
      · exact ⟨c :: passed, p, q, rfl, hbefore.trans (hlast passed).symm, hmatch⟩
    · rintro ⟨passed, ⟨_, behind⟩, q, hs, rfl, hmatch⟩
      cases passed with
      | nil =>
        obtain rfl : c :: s = behind := hs
        exact .inl ⟨q, hmatch⟩
      | cons d passed =>
        obtain ⟨rfl, rfl⟩ := List.cons.inj hs
        exact .inr ⟨passed, _, q, rfl, hlast passed, hmatch⟩

/-- A text has a match if and only if the expression matches from one of its places on. -/
theorem isMatch_iff (re : Regex) (s : String) :
    re.isMatch s ↔ ∃ p q, p.IsIn s.toList ∧ re.node.Matches p q := by
  rw [isMatch, captures?, search_eq_leftmost?, isSome_leftmost?_iff]
  simp only [Option.or_none, Place.IsIn]
  constructor
  · rintro ⟨passed, p, q, hs, hbefore, hmatch⟩
    exact ⟨p, q, ⟨passed, hs, hbefore⟩, hmatch⟩
  · rintro ⟨p, q, ⟨passed, hs, hbefore⟩, hmatch⟩
    exact ⟨passed, p, q, hs, hbefore, hmatch⟩

end Disclosure.Regex
