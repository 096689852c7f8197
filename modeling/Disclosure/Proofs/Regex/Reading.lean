import Mathlib.Data.List.Basic
import Disclosure.Regex.Pattern

/-!
# Reading patterns

Reading goes from one state to the next, each time with less of the pattern left (`Reads`). In
patterns that are not verbose, every character of the pattern is read.
-/

namespace Disclosure.Regex

variable {f : Flags} {st st' st'' : State} {c : Char} {s s' rest rest' : List Char}

lemma skip_eq (h : f.verbose = false) (s : List Char) : skip f s = s := by
  simp [skip, h]

/--
Whether reading leads from a state and the pattern left then to others, on a way on which the
pattern is not verbose.
-/
inductive Reads : State → List Char → State → List Char → Prop where
  | refl (st : State) (s : List Char) : Reads st s st s
  | step {st st' st'' : State} {s rest rest' : List Char} (hterse : st.flags.verbose = false)
      (hstep : step? st s = some (st', rest)) (hlt : rest.length < s.length)
      (hreads : Reads st' rest st'' rest') : Reads st s st'' rest'

namespace Reads

lemma single (hterse : st.flags.verbose = false) (hstep : step? st s = some (st', rest))
    (hlt : rest.length < s.length) : Reads st s st' rest :=
  .step hterse hstep hlt (.refl st' rest)

lemma trans (h : Reads st s st' rest) (h' : Reads st' rest st'' rest') :
    Reads st s st'' rest' := by
  induction h with
  | refl => exact h'
  | step hterse hstep hlt _ ih => exact .step hterse hstep hlt (ih h')

/-- The pattern is that which is read from where the way leads to. -/
lemma readPattern?_eq (h : Reads st s st' rest) : readPattern? st s = readPattern? st' rest := by
  induction h with
  | refl => rfl
  | @step st st' _ s _ _ hterse hstep hlt _ ih =>
    rw [← ih]
    cases s with
    | nil => cases hstep
    | cons c s =>
      rw [readPattern?, skip_eq hterse]
      simp only [hstep]
      rw [if_pos hlt]

end Reads

lemma readPattern?_eq_none (hterse : st.flags.verbose = false) (hs : s ≠ [])
    (hstep : step? st s = none) : readPattern? st s = none := by
  obtain ⟨c, s, rfl⟩ := List.exists_cons_of_ne_nil hs
  rw [readPattern?, skip_eq hterse]
  simp only [hstep]

lemma readPattern?_nil (st : State) :
    readPattern? st [] = if st.outer.isEmpty then some st.current.close else none := by
  have hskip : skip st.flags [] = [] := by
    rw [skip]
    split <;> rfl
  rw [readPattern?, hskip]

/-- The state in which reading a pattern begins. -/
def State.initial (f : Flags) : State := ⟨f, [], ⟨none, f, [], []⟩, []⟩

lemma exists_readPattern?_eq {pattern : String} {re : Regex}
    (h : ofPatternWith? f pattern = some re) :
    ∃ depth, readPattern? (.initial f) pattern.toList = some ⟨re.node, depth⟩ := by
  rw [ofPatternWith?] at h
  obtain ⟨⟨node, depth⟩, hread, h⟩ := Option.bind_eq_some_iff.1 h
  split at h
  · cases h
    exact ⟨depth, hread⟩
  · cases h

/-- A pattern that is read to its end gives an expression, if it is not too deep or too heavy. -/
lemma Reads.ofPatternWith?_eq {pattern : String} (h : Reads (.initial f) pattern.toList st [])
    (hclosed : st.outer = []) (hdepth : st.current.close.depth ≤ maxDepth)
    (hweight : st.current.close.value.weight ≤ weightLimit) :
    ofPatternWith? f pattern = some ⟨pattern, st.current.close.value⟩ := by
  have hread : readPattern? (.initial f) pattern.toList = some st.current.close := by
    rw [h.readPattern?_eq, readPattern?_nil, hclosed]
    rfl
  refine Option.bind_eq_some_iff.2 ⟨_, hread, ?_⟩
  simp [hdepth, hweight]

/-! ### Patterns that are never verbose -/

/-- Whether the verbose flag is off in all states that reading a pattern leads to. -/
def NeverVerbose (pattern : String) : Prop :=
  ∀ st rest, Reads (.initial {}) pattern.toList st rest → st.flags.verbose = false

/-- A pattern that is accepted and never verbose is read to its end. -/
lemma exists_reads_of_readPattern? {a : Leveled Node}
    (hterse : ∀ st' rest, Reads st s st' rest → st'.flags.verbose = false)
    (h : readPattern? st s = some a) : ∃ st', Reads st s st' [] ∧ st'.flags.verbose = false := by
  fun_induction readPattern? st s with
  | case1 st s hskip =>
    have hst := hterse st s (.refl st s)
    obtain rfl : s = [] := (skip_eq hst s).symm.trans hskip
    exact ⟨st, .refl st [], hst⟩
  | case2 => cases h
  | case3 => cases h
  | case4 st s c s' hskip st' rest hstep hlt ih =>
    have hst := hterse st s (.refl st s)
    obtain rfl : s = c :: s' := (skip_eq hst s).symm.trans hskip
    have hsingle := Reads.single hst hstep hlt
    obtain ⟨st'', hreads, hend⟩ :=
      ih (fun st'' rest' hreads => hterse st'' rest' (hsingle.trans hreads)) h
    exact ⟨st'', hsingle.trans hreads, hend⟩
  | case5 => cases h

/-- There is one way to read a pattern. -/
lemma Reads.linear (h : Reads st s st' rest) (hend : Reads st s st'' []) :
    Reads st' rest st'' [] := by
  induction h with
  | refl => exact hend
  | step _ hstep _ _ ih =>
    cases hend with
    | refl => cases hstep
    | step _ hstep' _ hend =>
      obtain ⟨⟨⟩, ⟨⟩⟩ := Option.some.inj (hstep.symm.trans hstep')
      exact ih hend

/-- A pattern that is read to its end is never verbose, if it is not there. -/
lemma neverVerbose_of_reads {pattern : String} (h : Reads (.initial {}) pattern.toList st [])
    (hend : st.flags.verbose = false) : NeverVerbose pattern := by
  intro st' rest hreads
  cases hreads.linear h with
  | refl => exact hend
  | step hterse => exact hterse

/-! ### Characters that stand for themselves -/

/-- The state behind characters that stand for themselves. -/
def State.spell (st : State) (cs : List Char) : State :=
  { st with
    current := { st.current with
      parts := cs.reverse.map (fun c => ⟨some (charNode st.flags c), 0⟩) ++ st.current.parts } }

lemma step?_spell (hc : c ∉ metaCharacters) : step? st (c :: s) = some (st.spell [c], s) := by
  simp only [metaCharacters, List.mem_cons, not_or] at hc
  rw [step?]
  · rfl
  all_goals simp_all

lemma reads_spell {cs : List Char} (hterse : st.flags.verbose = false)
    (hcs : ∀ c ∈ cs, c ∉ metaCharacters) (s : List Char) :
    Reads st (cs ++ s) (st.spell cs) s := by
  induction cs generalizing st with
  | nil => exact .refl st s
  | cons c cs ih =>
    have hrest : Reads (st.spell [c]) (cs ++ s) ((st.spell [c]).spell cs) s :=
      ih hterse fun d hd => hcs d (List.mem_cons_of_mem c hd)
    have hspell : (st.spell [c]).spell cs = st.spell (c :: cs) := by simp [State.spell]
    rw [hspell] at hrest
    exact .step hterse (step?_spell (hcs c List.mem_cons_self)) (by simp) hrest

end Disclosure.Regex
