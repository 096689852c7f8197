import Disclosure.Proofs.Regex.Search

/-!
# Marks

A match passes marks on its way (`Node.Passes`). The marks that a search gives are passed by a match
of the text (`exists_passes_of_captures?`), and they belong to groups of the expression
(`Node.Passes.names_subset`).
-/

namespace Disclosure.Regex

variable {before after : Option Char} {a b : Node} {as bs more : List Node} {o : Outcome}
  {os later : List Outcome} {marks : List Mark} {n : String} {s : List Char} {p q r : Place}
  {c : Captures}

/-- The names of the marks in an expression. -/
def Node.names : Node → List String
  | .empty | .chars _ | .anchor _ => []
  | .mark m => [m.name]
  | .seq a b | .alt a b => a.names ++ b.names
  | .times _ _ _ a => a.names

lemma names_seqOf (as : List Node) : (Node.seqOf as).names = as.flatMap Node.names := by
  induction as with
  | nil => rfl
  | cons a as ih =>
    cases as with
    | nil => simp [Node.seqOf]
    | cons b as => rw [Node.seqOf, Node.names, ih, ← List.flatMap_cons]

lemma names_altOf (as : List Node) : (Node.altOf as).names = as.flatMap Node.names := by
  induction as with
  | nil => rfl
  | cons a as ih =>
    cases as with
    | nil => simp [Node.altOf]
    | cons b as => rw [Node.altOf, Node.names, ih, ← List.flatMap_cons]

lemma mem_names_named {m : String} : m ∈ (a.named n).names ↔ m = n ∨ m ∈ a.names := by
  simp only [Node.named, Node.names, Mark.name, List.mem_append, List.mem_singleton]
  tauto

lemma names_whole (as : List Node) : (Node.whole as).names = as.flatMap Node.names := by
  simp [Node.whole, names_seqOf, Node.names]

/-- The names of the marks that were passed. -/
def Captures.names (c : Captures) : List String :=
  c.map (·.1.name)

lemma names_append (c c' : Captures) :
    Captures.names (c ++ c') = Captures.names c ++ Captures.names c' :=
  List.map_append

/-! ### Ways past marks -/

/--
Whether an expression matches between two places past these marks. Of those in a repetition, only
the names are told.
-/
def Node.Passes : Node → Place → Place → Captures → Prop
  | .empty, p, q, c => p = q ∧ c = []
  | .chars a, p, q, c => (Node.chars a).Matches p q ∧ c = []
  | .anchor a, p, q, c => (Node.anchor a).Matches p q ∧ c = []
  | .mark m, p, q, c => p = q ∧ c = [(m, p.behind)]
  | .seq a b, p, r, c => ∃ q c₁ c₂, a.Passes p q c₁ ∧ b.Passes q r c₂ ∧ c = c₁ ++ c₂
  | .alt a b, p, q, c => a.Passes p q c ∨ b.Passes p q c
  | .times lo hi greedy a, p, q, c =>
    (Node.times lo hi greedy a).Matches p q ∧ Captures.names c ⊆ a.names

/-- Whether expressions one after the other match between two places past these marks. -/
def PassesAll : List Node → Place → Place → Captures → Prop
  | [], p, q, c => p = q ∧ c = []
  | a :: rest, p, r, c => ∃ q c₁ c₂, a.Passes p q c₁ ∧ PassesAll rest q r c₂ ∧ c = c₁ ++ c₂

lemma passesAll_singleton : PassesAll [a] p q c ↔ a.Passes p q c := by
  simp [PassesAll]

lemma passesAll_append : PassesAll (as ++ bs) p r c ↔
    ∃ q c₁ c₂, PassesAll as p q c₁ ∧ PassesAll bs q r c₂ ∧ c = c₁ ++ c₂ := by
  induction as generalizing p c with
  | nil => simp [PassesAll]
  | cons a as ih =>
    simp only [List.cons_append, PassesAll, ih]
    constructor
    · rintro ⟨q, c₁, _, ha, ⟨q', c₂, c₃, has, hbs, rfl⟩, rfl⟩
      exact ⟨q', _, c₃, ⟨q, c₁, c₂, ha, has, rfl⟩, hbs, (List.append_assoc c₁ c₂ c₃).symm⟩
    · rintro ⟨q', _, c₃, ⟨q, c₁, c₂, ha, has, rfl⟩, hbs, rfl⟩
      exact ⟨q, c₁, _, ha, ⟨q', c₂, c₃, has, hbs, rfl⟩, List.append_assoc c₁ c₂ c₃⟩

lemma passes_seqOf : (Node.seqOf as).Passes p q c ↔ PassesAll as p q c := by
  induction as generalizing p c with
  | nil => rfl
  | cons a as ih =>
    cases as with
    | nil => exact passesAll_singleton.symm
    | cons b as => simp only [Node.seqOf, Node.Passes, PassesAll, ih]

lemma passes_altOf (h : as ≠ []) : (Node.altOf as).Passes p q c ↔ ∃ a ∈ as, a.Passes p q c := by
  induction as with
  | nil => exact absurd rfl h
  | cons a as ih =>
    cases as with
    | nil => simp [Node.altOf]
    | cons b as =>
      simp only [Node.altOf, Node.Passes, ih (List.cons_ne_nil b as),
        List.exists_mem_cons_iff (Node.Passes · p q c)]

/-- A group passes its two ends, and between them what its expression passes. -/
lemma passes_named {name : String} : (a.named name).Passes p q c ↔
    ∃ c', a.Passes p q c' ∧
      c = (.opens name, p.behind) :: (c' ++ [(.closes name, q.behind)]) := by
  constructor
  · rintro ⟨_, _, _, ⟨rfl, rfl⟩, ⟨_, c', _, ha, ⟨rfl, rfl⟩, rfl⟩, rfl⟩
    exact ⟨c', ha, rfl⟩
  · rintro ⟨c', ha, rfl⟩
    exact ⟨p, _, _, ⟨rfl, rfl⟩, ⟨q, c', _, ha, ⟨rfl, rfl⟩, rfl⟩, rfl⟩

/-- Marks are passed between the ends of the text only. -/
lemma passes_whole_iff : (Node.whole as).Passes p q c ↔
    p.before = none ∧ PassesAll as p q c ∧ q.behind = [] := by
  rw [Node.whole, passes_seqOf]
  simp only [PassesAll, passesAll_append, Node.Passes, Node.Matches, Anchor.holds,
    Option.isNone_iff_eq_none, Place.after_eq_none_iff]
  constructor
  · rintro ⟨_, _, _, ⟨⟨hstart, rfl⟩, rfl⟩, ⟨_, c', _, hparts, hlast, rfl⟩, rfl⟩
    obtain ⟨_, _, _, ⟨⟨hbehind, rfl⟩, rfl⟩, ⟨rfl, rfl⟩, rfl⟩ := hlast
    exact ⟨hstart, by simpa using hparts, hbehind⟩
  · rintro ⟨hstart, hparts, hbehind⟩
    refine ⟨p, [], c, ⟨⟨hstart, rfl⟩, rfl⟩, ⟨q, c, [], hparts, ?_, (List.append_nil c).symm⟩, rfl⟩
    exact ⟨q, [], [], ⟨⟨hbehind, rfl⟩, rfl⟩, ⟨rfl, rfl⟩, rfl⟩

lemma Node.Passes.matches (h : a.Passes p q c) : a.Matches p q := by
  induction a generalizing p q c with
  | empty | mark m => exact h.1
  | chars a | anchor a | times lo hi greedy a ih => exact h.1
  | seq a b iha ihb =>
    obtain ⟨r, _, _, ha, hb, -⟩ := h
    exact ⟨r, iha ha, ihb hb⟩
  | alt a b iha ihb => exact h.imp iha ihb

lemma PassesAll.matchesAll (h : PassesAll as p q c) : MatchesAll as p q := by
  induction as generalizing p c with
  | nil => exact h.1
  | cons a as ih =>
    obtain ⟨r, _, _, ha, has, -⟩ := h
    exact ⟨r, ha.matches, ih has⟩

lemma append_subset_append {α : Type} {l l' m m' : List α} (hl : l ⊆ m) (hl' : l' ⊆ m') :
    l ++ l' ⊆ m ++ m' :=
  List.append_subset.2 ⟨List.subset_append_of_subset_left _ hl,
    List.subset_append_of_subset_right _ hl'⟩

/-- A match passes no marks but those of the expression. -/
lemma Node.Passes.names_subset (h : a.Passes p q c) : c.names ⊆ a.names := by
  induction a generalizing p q c with
  | empty | chars a | anchor a =>
    rw [h.2]
    exact List.nil_subset _
  | mark m =>
    rw [h.2]
    exact List.Subset.refl _
  | seq a b iha ihb =>
    obtain ⟨r, c₁, c₂, ha, hb, rfl⟩ := h
    rw [names_append]
    exact append_subset_append (iha ha) (ihb hb)
  | alt a b iha ihb =>
    rcases h with h | h
    · exact List.subset_append_of_subset_left _ (iha h)
    · exact List.subset_append_of_subset_right _ (ihb h)
  | times lo hi greedy a ih => exact h.2

lemma PassesAll.names_subset (h : PassesAll as p q c) : c.names ⊆ as.flatMap Node.names := by
  induction as generalizing p c with
  | nil =>
    rw [h.2]
    exact List.nil_subset _
  | cons a as ih =>
    obtain ⟨r, c₁, c₂, ha, has, rfl⟩ := h
    rw [names_append, List.flatMap_cons]
    exact append_subset_append ha.names_subset (ih has)

/-! ### Texts of groups -/

lemma isSome_lookup_iff {m : Mark} :
    (c.reverse.lookup m).isSome ↔ ∃ s, (m, s) ∈ c := by
  rw [← not_iff_not, Option.not_isSome_iff_eq_none, List.lookup_eq_none_iff]
  simp only [List.mem_reverse, bne_iff_ne, not_exists]
  constructor
  · intro h s hs
    exact h _ hs rfl
  · rintro h ⟨_, s⟩ hs rfl
    exact h s hs

lemma lookup_eq_none {m : Mark} (h : m.name ∉ c.names) : c.reverse.lookup m = none := by
  rw [← Option.not_isSome_iff_eq_none, isSome_lookup_iff]
  rintro ⟨s, hs⟩
  exact h (List.mem_map.2 ⟨_, hs, rfl⟩)

/-- A group has a text if both its ends were passed. -/
lemma isSome_text?_iff :
    (c.text? n).isSome ↔ (∃ s, (.opens n, s) ∈ c) ∧ ∃ s, (.closes n, s) ∈ c := by
  rw [← isSome_lookup_iff, ← isSome_lookup_iff, Captures.text?]
  cases c.reverse.lookup (.opens n) <;> cases c.reverse.lookup (.closes n) <;> simp

/-- A group of which no mark was passed has no text. -/
lemma text?_eq_none (h : n ∉ c.names) : c.text? n = none := by
  have hopened : c.reverse.lookup (.opens n) = none := lookup_eq_none h
  rw [Captures.text?, hopened]
  rfl

/-- A group that was closed right after it was opened last has the text in between. -/
lemma text?_eq_some (c₁ c₂ : Captures) (h : n ∉ c₂.names) (w t : List Char) :
    Captures.text? (c₁ ++ (.opens n, w ++ t) :: (.closes n, t) :: c₂) n =
      some (String.ofList w) := by
  have hopened : c₂.reverse.lookup (.opens n) = none := lookup_eq_none h
  have hclosed : c₂.reverse.lookup (.closes n) = none := lookup_eq_none h
  have hne : (Mark.opens n == Mark.closes n) = false := by simp
  simp [Captures.text?, List.lookup_append, List.lookup_cons, hopened, hclosed, hne]

/-- A group that is matched has a text. -/
lemma isSome_text?_of_passes_named (h : (a.named n).Passes p q c) : (c.text? n).isSome := by
  obtain ⟨c', -, rfl⟩ := passes_named.1 h
  exact isSome_text?_iff.2 ⟨⟨_, List.mem_cons_self⟩, ⟨q.behind, by simp⟩⟩

/-! ### Outcomes -/

lemma mem_distinct (h : o ∈ Outcome.distinct os) : o ∈ os := by
  induction os with
  | nil => cases h
  | cons o' os ih =>
    cases o' with
    | next marks rest =>
      rcases List.mem_cons.1 h with rfl | h
      · exact List.mem_cons_self
      · exact List.mem_cons_of_mem _ (ih h)
    | done marks =>
      rcases List.mem_cons.1 h with rfl | h
      · exact List.mem_cons_self
      · exact List.mem_cons_of_mem _ (List.mem_filter.1 h).1

/-- An outcome of two expressions in a row takes a character in the first or in the second. -/
lemma mem_follow (h : o ∈ Outcome.follow more later os) :
    (∃ marks rest, .next marks rest ∈ os ∧ o = .next marks (rest ++ more)) ∨
      ∃ marks, .done marks ∈ os ∧ ∃ o' ∈ later, o = o'.withMarks marks := by
  induction os with
  | nil => cases h
  | cons o' os ih =>
    cases o' with
    | next marks rest =>
      rcases List.mem_cons.1 h with rfl | h
      · exact .inl ⟨marks, rest, List.mem_cons_self, rfl⟩
      · rcases ih h with ⟨marks', rest', hmem, heq⟩ | ⟨marks', hmem, hlater⟩
        · exact .inl ⟨marks', rest', List.mem_cons_of_mem _ hmem, heq⟩
        · exact .inr ⟨marks', List.mem_cons_of_mem _ hmem, hlater⟩
    | done marks =>
      rcases List.mem_append.1 h with h | h
      · obtain ⟨o', ho', rfl⟩ := List.mem_map.1 h
        exact .inr ⟨marks, List.mem_cons_self, o', ho', rfl⟩
      · obtain ⟨o', ho', happend⟩ := List.mem_filterMap.1 h
        cases o' with
        | done marks' => cases happend
        | next marks' rest =>
          cases happend
          exact .inl ⟨marks', rest, List.mem_cons_of_mem _ ho', rfl⟩

/-- A repetition is left at once, or where its body is, or it goes on behind a character. -/
lemma mem_outcomes_times {lo : Nat} {hi : Option Nat} {greedy : Bool}
    (h : o ∈ (Node.times lo hi greedy a).outcomes before after) :
    o = .done [] ∨ o ∈ a.outcomes before after ∨
      ∃ marks rest lo' hi', .next marks rest ∈ a.outcomes before after ∧
        o = .next marks (rest ++ [.times lo' hi' greedy a]) := by
  have hturns : ∀ lo' hi', o ∈ (a.outcomes before after).filterMap
      (Outcome.append? [.times lo' hi' greedy a]) →
      ∃ marks rest lo' hi', .next marks rest ∈ a.outcomes before after ∧
        o = .next marks (rest ++ [.times lo' hi' greedy a]) := by
    intro lo' hi' ho
    obtain ⟨o', ho', happend⟩ := List.mem_filterMap.1 ho
    cases o' with
    | done marks => cases happend
    | next marks rest =>
      cases happend
      exact ⟨marks, rest, lo', hi', ho', rfl⟩
  have hleave : o ∈ (if lo = 0 then [.done []] else
      ((a.outcomes before after).findSome? Outcome.done?).toList.map .done) →
      o = .done [] ∨ o ∈ a.outcomes before after := by
    intro ho
    split_ifs at ho
    · exact .inl (List.mem_singleton.1 ho)
    · obtain ⟨marks, hmarks, rfl⟩ := List.mem_map.1 ho
      obtain ⟨o', ho', hdone⟩ := List.exists_of_findSome?_eq_some (Option.mem_toList.1 hmarks)
      cases o' with
      | done marks' =>
        cases hdone
        exact .inr ho'
      | next marks' rest => cases hdone
  simp only [Node.outcomes] at h
  by_cases hhi : hi = some 0
  · rw [if_pos hhi] at h
    exact .inl (List.mem_singleton.1 h)
  rw [if_neg hhi] at h
  have hor : o ∈ (a.outcomes before after).filterMap (Outcome.append? [.times
      (if ((a.outcomes before after).findSome? Outcome.done?).isSome then 0 else lo - 1)
      (hi.map (· - 1)) greedy a]) ∨ o ∈ (if lo = 0 then [.done []] else
      ((a.outcomes before after).findSome? Outcome.done?).toList.map .done) := by
    cases greedy with
    | true => exact List.mem_append.1 h
    | false => exact (List.mem_append.1 h).symm
  rcases hor with ho | ho
  · exact .inr (.inr (hturns _ _ ho))
  · exact (hleave ho).imp_right .inl

/-- Whether an outcome at a place can be followed up to another place past these marks. -/
def Outcome.LeadsPast (p : Place) : Outcome → Place → Captures → Prop
  | .done marks, q, c => p = q ∧ c = passedAt p.behind marks
  | .next marks rest, q, c => ∃ d s c', p.behind = d :: s ∧ PassesAll rest ⟨some d, s⟩ q c' ∧
      c = passedAt p.behind marks ++ c'

lemma Outcome.LeadsPast.leadsTo (h : o.LeadsPast p q c) : o.LeadsTo p q := by
  cases o with
  | done marks => exact h.1
  | next marks rest =>
    obtain ⟨d, s, c', hbehind, hrest, -⟩ := h
    exact ⟨d, s, hbehind, hrest.matchesAll⟩

lemma passedAt_append (s : List Char) (marks marks' : List Mark) :
    passedAt s (marks ++ marks') = passedAt s marks ++ passedAt s marks' :=
  List.map_append

lemma leadsPast_withMarks (h : (o.withMarks marks).LeadsPast p q c) :
    ∃ c', o.LeadsPast p q c' ∧ c = passedAt p.behind marks ++ c' := by
  cases o with
  | done marks' =>
    obtain ⟨rfl, rfl⟩ := h
    exact ⟨_, ⟨rfl, rfl⟩, passedAt_append _ _ _⟩
  | next marks' rest =>
    obtain ⟨d, s, c', hbehind, hrest, rfl⟩ := h
    exact ⟨_, ⟨d, s, c', hbehind, hrest, rfl⟩, by rw [passedAt_append, List.append_assoc]⟩

/-- What an outcome of two expressions in a row leads past, both of them pass. -/
lemma exists_passes_of_mem_follow
    (hfirst : ∀ o ∈ os, ∀ q c, o.LeadsPast p q c → a.Passes p q c)
    (hlater : ∀ o ∈ later, ∀ q c, o.LeadsPast p q c → PassesAll more p q c)
    (ho : o ∈ Outcome.follow more later os) (h : o.LeadsPast p r c) :
    PassesAll (a :: more) p r c := by
  rcases mem_follow ho with ⟨marks, rest, hmem, rfl⟩ | ⟨marks, hmem, o', ho', rfl⟩
  · obtain ⟨d, s, _, hbehind, hall, rfl⟩ := h
    obtain ⟨q, c₁, c₂, hrest, hmore, rfl⟩ := passesAll_append.1 hall
    have ha : a.Passes p q (passedAt p.behind marks ++ c₁) :=
      hfirst _ hmem q _ ⟨d, s, c₁, hbehind, hrest, rfl⟩
    exact ⟨q, _, c₂, ha, hmore, (List.append_assoc _ c₁ c₂).symm⟩
  · obtain ⟨c', ho'', rfl⟩ := leadsPast_withMarks h
    exact ⟨p, _, c', hfirst _ hmem p _ ⟨rfl, rfl⟩, hlater o' ho' r c' ho'', rfl⟩

/-- Whatever the outcomes of an expression lead past, it passes on a match. -/
theorem passes_of_mem_outcomes (ho : o ∈ a.outcomes p.before p.after) (h : o.LeadsPast p q c) :
    a.Passes p q c := by
  induction a generalizing o q c with
  | empty =>
    obtain rfl := List.mem_singleton.1 ho
    exact h
  | mark m =>
    obtain rfl := List.mem_singleton.1 ho
    exact h
  | chars a =>
    have hmatch := (leadTo_outcomes_iff (.chars a) p q).1 ⟨o, ho, h.leadsTo⟩
    refine ⟨hmatch, ?_⟩
    rw [Node.outcomes] at ho
    split_ifs at ho
    · obtain rfl := List.mem_singleton.1 ho
      obtain ⟨d, s, c', -, hrest, rfl⟩ := h
      exact hrest.2
    · cases ho
  | anchor a =>
    have hmatch := (leadTo_outcomes_iff (.anchor a) p q).1 ⟨o, ho, h.leadsTo⟩
    refine ⟨hmatch, ?_⟩
    rw [Node.outcomes] at ho
    split_ifs at ho
    · obtain rfl := List.mem_singleton.1 ho
      exact h.2
    · cases ho
  | seq a b iha ihb =>
    have hlater : ∀ o ∈ b.outcomes p.before p.after, ∀ q c, o.LeadsPast p q c →
        PassesAll [b] p q c := fun o ho q c h => passesAll_singleton.2 (ihb ho h)
    obtain ⟨q, c₁, c₂, ha, hb, rfl⟩ :=
      exists_passes_of_mem_follow (fun o ho q c h => iha ho h) hlater ho h
    exact ⟨q, c₁, c₂, ha, passesAll_singleton.1 hb, rfl⟩
  | alt a b iha ihb =>
    rcases List.mem_append.1 (mem_distinct ho) with ho | ho
    · exact .inl (iha ho h)
    · exact .inr (ihb ho h)
  | times lo hi greedy a ih =>
    refine ⟨(leadTo_outcomes_iff _ p q).1 ⟨o, ho, h.leadsTo⟩, ?_⟩
    rcases mem_outcomes_times ho with rfl | hdone | ⟨marks, rest, lo', hi', hnext, rfl⟩
    · rw [h.2]
      exact List.nil_subset _
    · exact (ih hdone h).names_subset
    · obtain ⟨d, s, _, hbehind, hall, rfl⟩ := h
      obtain ⟨r, c₁, c₂, hrest, hagain, rfl⟩ := passesAll_append.1 hall
      have hfirst : a.Passes p r (passedAt p.behind marks ++ c₁) :=
        ih hnext ⟨d, s, c₁, hbehind, hrest, rfl⟩
      rw [← List.append_assoc, names_append]
      exact List.append_subset.2 ⟨hfirst.names_subset, (passesAll_singleton.1 hagain).2⟩

lemma passesAll_of_mem_outcomesOf (ho : o ∈ outcomesOf p.before p.after as)
    (h : o.LeadsPast p q c) : PassesAll as p q c := by
  induction as generalizing o q c with
  | nil =>
    obtain rfl := List.mem_singleton.1 ho
    exact h
  | cons a as ih =>
    exact exists_passes_of_mem_follow (fun o ho q c => passes_of_mem_outcomes ho)
      (fun o ho q c h => ih ho h) ho h

/-! ### Searches -/

/-- The preferred way to match at a place is a way past the marks that it gives. -/
theorem exists_passesAll_of_preferred? (h : preferred? before as s = some c) :
    ∃ q, PassesAll as ⟨before, s⟩ q c := by
  induction s generalizing before as c with
  | nil =>
    rw [preferred?_eq] at h
    obtain ⟨o, ho, hfinish⟩ := List.exists_of_findSome?_eq_some h
    cases o with
    | done marks =>
      obtain rfl := Option.some.inj hfinish
      exact ⟨_, passesAll_of_mem_outcomesOf (p := ⟨before, []⟩) ho ⟨rfl, rfl⟩⟩
    | next marks rest => cases hfinish
  | cons d s ih =>
    rw [preferred?_eq] at h
    obtain ⟨o, ho, hfinish⟩ := List.exists_of_findSome?_eq_some h
    cases o with
    | done marks =>
      obtain rfl := Option.some.inj hfinish
      exact ⟨_, passesAll_of_mem_outcomesOf (p := ⟨before, d :: s⟩) ho ⟨rfl, rfl⟩⟩
    | next marks rest =>
      obtain ⟨c', hgo, rfl⟩ := Option.map_eq_some_iff.1 hfinish
      obtain ⟨q, hrest⟩ := ih hgo
      exact ⟨q, passesAll_of_mem_outcomesOf (p := ⟨before, d :: s⟩) ho
        ⟨d, s, c', rfl, hrest, rfl⟩⟩

lemma exists_passes_of_leftmost? {start : Node} (h : leftmost? start before s = some c) :
    ∃ passed p q, s = passed ++ p.behind ∧ p.before = passed.getLast?.or before ∧
      start.Passes p q c := by
  induction s generalizing before with
  | nil =>
    obtain ⟨q, hpasses⟩ := exists_passesAll_of_preferred? h
    exact ⟨[], _, q, rfl, rfl, passesAll_singleton.1 hpasses⟩
  | cons d s ih =>
    rw [leftmost?, Option.or_eq_some_iff] at h
    rcases h with h | ⟨-, h⟩
    · obtain ⟨q, hpasses⟩ := exists_passesAll_of_preferred? h
      exact ⟨[], _, q, rfl, rfl, passesAll_singleton.1 hpasses⟩
    · obtain ⟨passed, p, q, rfl, hbefore, hpasses⟩ := ih h
      refine ⟨d :: passed, p, q, rfl, ?_, hpasses⟩
      rw [hbefore]
      cases hlast : passed.getLast? <;> simp [List.getLast?_cons, hlast]

/-- A search gives the marks of a match of the text. -/
theorem exists_passes_of_captures? {re : Regex} {text : String} (h : re.captures? text = some c) :
    ∃ p q, p.IsIn text.toList ∧ re.node.Passes p q c := by
  rw [captures?, search_eq_leftmost?] at h
  obtain ⟨passed, p, q, htext, hbefore, hpasses⟩ := exists_passes_of_leftmost? h
  exact ⟨p, q, ⟨passed, htext, by rwa [Option.or_none] at hbefore⟩, hpasses⟩

end Disclosure.Regex
