import Disclosure.Proofs.Regex.Local
import Disclosure.Proofs.Regex.Steps

/-!
# Patterns in groups

A pattern that is not verbose keeps its meaning inside of groups. It is read there by the same steps
(`Reads.inside`), unless one of its names is in use already.
-/

namespace Disclosure.Regex

variable {f : Flags} {st st' : State} {s rest : List Char} {ns : List String} {outer : List Group}

/-! ### Groups with names -/

/-- A group with a name is opened if the name is one and is new. -/
lemma step?_named (hterse : st.flags.verbose = false) {name : List Char} (hname : '>' ∉ name)
    (t : List Char) : step? st ('(' :: '?' :: 'P' :: '<' :: (name ++ '>' :: t)) =
      if isName name && !st.names.contains (String.ofList name) then
        some (st.push (some (String.ofList name)) st.flags, t)
      else none := by
  rw [step?, openGroup?, skip_eq hterse]
  change openNamed? st (name ++ '>' :: t) = _
  simp only [openNamed?, Text.takeWhile_ne_append hname, Text.dropWhile_ne_append hname]

/-! ### Inside of groups -/

/-- A state of reading inside of further groups, with further names in use. -/
def State.inside (st : State) (ns : List String) (outer : List Group) : State :=
  { st with names := st.names ++ ns, outer := st.outer ++ outer }

lemma push_inside (name : Option String) (flags : Flags) :
    (st.inside ns outer).push name flags = (st.push name flags).inside ns outer := by
  simp [State.inside, State.push]

lemma pop?_inside (h : st.pop? = some st') :
    (st.inside ns outer).pop? = some (st'.inside ns outer) := by
  rw [State.pop?] at h
  split at h
  · cases h
  · next g gs hst =>
    cases h
    simp [State.pop?, State.inside, hst]

lemma repeat?_inside {lo : Nat} {hi : Option Nat} {lazy : Bool}
    (h : st.repeat? lo hi lazy = some st') :
    (st.inside ns outer).repeat? lo hi lazy = some (st'.inside ns outer) := by
  obtain ⟨⟨a, parts⟩, hparts, ⟨⟩⟩ := Option.bind_eq_some_iff.1 h
  exact Option.bind_eq_some_iff.2 ⟨_, hparts, rfl⟩

/-- The sign of a repetition is read, and then whether it is a lazy one. -/
lemma repeatLazy_inside {lo : Nat} {hi : Option Nat}
    (h : (st.repeat? lo hi (readLazy s).1).map (·, (readLazy s).2) = some (st', rest))
    (t : List Char) :
    ((st.inside ns outer).repeat? lo hi (readLazy (s ++ ')' :: t)).1).map
      (·, (readLazy (s ++ ')' :: t)).2) = some (st'.inside ns outer, rest ++ ')' :: t) := by
  obtain ⟨_, hrepeat, ⟨⟩⟩ := Option.map_eq_some_iff.1 h
  rw [readLazy_append]
  exact Option.map_eq_some_iff.2 ⟨_, repeat?_inside hrepeat, rfl⟩

lemma openNamed?_inside (h : openNamed? st s = some (st', rest)) (t : List Char) :
    openNamed? (st.inside ns outer) (s ++ ')' :: t) = some (st'.inside ns outer, rest ++ ')' :: t) ∨
      openNamed? (st.inside ns outer) (s ++ ')' :: t) = none := by
  simp only [openNamed?] at h ⊢
  split at h
  · cases h
  · next hname =>
    obtain ⟨htake, hdrop⟩ := span_append (u := ')' :: t) hname
    rw [htake, hdrop]
    dsimp only
    split_ifs at h with hnew
    cases h
    split_ifs
    · exact .inl (by rw [push_inside]; rfl)
    · exact .inr rfl

lemma openFlags?_inside (h : openFlags? st s = some (st', rest)) (t : List Char) :
    openFlags? (st.inside ns outer) (s ++ ')' :: t) =
      some (st'.inside ns outer, rest ++ ')' :: t) := by
  have hsame : (st.inside ns outer).flags = st.flags := rfl
  rw [openFlags?] at h ⊢
  split at h
  · next hflags =>
    cases h
    rw [hsame, local_readFlags _ _ _ t hflags]
    simp [push_inside]
  · next hflags =>
    cases h
    rw [hsame, local_readFlags _ _ _ t hflags]
    rfl
  · cases h

/-! ### Openings -/

section Openings

variable (hterse : st.flags.verbose = false)

include hterse

lemma openGroup?_named (s : List Char) :
    openGroup? st ('?' :: 'P' :: '<' :: s) = openNamed? st s := by
  rw [openGroup?, skip_eq hterse]
  rfl

lemma openGroup?_angle (hbehind : ∀ s', s ≠ ['='] ++ s') (hnot : ∀ s', s ≠ ['!'] ++ s') :
    openGroup? st ('?' :: '<' :: s) = openNamed? st s := by
  simp only [List.singleton_append] at hbehind hnot
  rw [openGroup?, skip_eq hterse]
  split <;> grind

lemma openGroup?_flags (hname : ∀ s', s ≠ ['P', '<'] ++ s') (hangle : ∀ s', s ≠ ['<'] ++ s')
    (hclose : ∀ s', s ≠ [')'] ++ s') : openGroup? st ('?' :: s) = openFlags? st s := by
  rw [openGroup?, skip_eq hterse]
  split <;> simp_all

lemma openGroup?_plain (hflags : ∀ s', s ≠ ['?'] ++ s') :
    openGroup? st s = some (st.push none st.flags, s) := by
  rw [openGroup?, skip_eq hterse]
  split <;> simp_all

end Openings

lemma openGroup?_inside (hterse : st.flags.verbose = false)
    (h : openGroup? st s = some (st', rest)) (t : List Char) :
    openGroup? (st.inside ns outer) (s ++ ')' :: t) = some (st'.inside ns outer, rest ++ ')' :: t) ∨
      openGroup? (st.inside ns outer) (s ++ ')' :: t) = none := by
  have hterse' : (st.inside ns outer).flags.verbose = false := hterse
  have hopens := opens_of_openGroup? h
  rw [skip_eq hterse] at hopens
  cases hopens with
  | named h =>
    rw [List.cons_append, List.cons_append, List.cons_append, openGroup?_named hterse']
    exact openNamed?_inside h t
  | angle hbehind hnot h =>
    rw [List.cons_append, List.cons_append, openGroup?_angle hterse'
      (append_ne ['='] (by decide) hbehind) (append_ne ['!'] (by decide) hnot)]
    exact openNamed?_inside h t
  | @flags s _ _ hname hangle hclose h =>
    have hclose' : ∀ s', s ++ ')' :: t ≠ [')'] ++ s' := by
      cases s with
      | nil => cases h
      | cons d s =>
        intro s' heq
        exact hclose s (by rw [(List.cons.inj heq).1, List.singleton_append])
    rw [List.cons_append, openGroup?_flags hterse' (append_ne ['P', '<'] (by decide) hname)
      (append_ne ['<'] (by decide) hangle) hclose']
    exact .inl (openFlags?_inside h t)
  | plain hflags =>
    rw [openGroup?_plain hterse' (append_ne ['?'] (by decide) hflags), push_inside]
    exact .inl rfl

/-- A step goes on inside of groups as it does outside, unless a name is in use already. -/
lemma step?_inside (hterse : st.flags.verbose = false) (h : step? st s = some (st', rest))
    (t : List Char) :
    step? (st.inside ns outer) (s ++ ')' :: t) = some (st'.inside ns outer, rest ++ ')' :: t) ∨
      step? (st.inside ns outer) (s ++ ')' :: t) = none := by
  rw [step?.eq_def] at h
  split at h
  · cases h
  -- a group is opened or closed, or its next branch begins
  · exact openGroup?_inside hterse h t
  · obtain ⟨st'', hpop, ⟨⟩⟩ := Option.map_eq_some_iff.1 h
    exact .inl (Option.map_eq_some_iff.2 ⟨_, pop?_inside hpop, rfl⟩)
  · cases h
    exact .inl rfl
  -- a class in brackets
  · obtain ⟨_, hclass, ⟨⟩⟩ := Option.map_eq_some_iff.1 h
    exact .inl (Option.map_eq_some_iff.2 ⟨_, local_readClass? hterse t hclass, rfl⟩)
  -- a repetition by one of the three signs, or with bounds
  · exact .inl (repeatLazy_inside h t)
  · exact .inl (repeatLazy_inside h t)
  · exact .inl (repeatLazy_inside h t)
  · next s =>
    simp only [Option.bind_eq_bind, Option.bind_eq_some_iff, skip_eq hterse] at h
    obtain ⟨⟨lo, hi, after⟩, hbounds, _, hrepeat, ⟨⟩⟩ := h
    left
    have hbounds' := readBounds?_append hterse hbounds t
    refine Option.bind_eq_some_iff.2 ⟨_, hbounds', ?_⟩
    simp only [show (st.inside ns outer).flags = st.flags from rfl, skip_eq hterse,
      readLazy_append]
    exact Option.bind_eq_some_iff.2 ⟨_, repeat?_inside hrepeat, rfl⟩
  -- an escape, a dot, an end of the text, and a character that stands for itself
  · simp only [Option.bind_eq_bind, Option.bind_eq_some_iff] at h
    obtain ⟨⟨a, _⟩, hescape, n, hn, ⟨⟩⟩ := h
    left
    refine Option.bind_eq_some_iff.2 ⟨_, local_readEscape? hterse t hescape, ?_⟩
    exact Option.bind_eq_some_iff.2 ⟨n, hn, rfl⟩
  · obtain ⟨n, hdot, ⟨⟩⟩ := Option.map_eq_some_iff.1 h
    exact .inl (Option.map_eq_some_iff.2 ⟨n, hdot, rfl⟩)
  · cases h
    exact .inl rfl
  · cases h
    exact .inl rfl
  · cases h
    left
    rw [List.cons_append, step?]
    · rfl
    all_goals assumption

/-- A pattern goes on inside of groups as it does outside, if it is accepted there at all. -/
lemma Reads.inside (h : Reads st s st' rest) {t : List Char} {a : Leveled Node}
    (hnodup : (st.inside ns outer).names.Nodup)
    (haccepted : readPattern? (st.inside ns outer) (s ++ ')' :: t) = some a) :
    (st'.inside ns outer).names.Nodup ∧
      readPattern? (st'.inside ns outer) (rest ++ ')' :: t) = some a := by
  induction h with
  | refl => exact ⟨hnodup, haccepted⟩
  | @step st st' _ s rest _ hterse hstep hlt _ ih =>
    have hterse' : (st.inside ns outer).flags.verbose = false := hterse
    rcases step?_inside hterse hstep t with hgo | hnone
    · have hreads := Reads.single hterse' hgo (by simpa using hlt)
      exact ih ((next_of_step? hgo).nodup hnodup) (hreads.readPattern?_eq ▸ haccepted)
    · rw [readPattern?_eq_none hterse' (by simp) hnone] at haccepted
      cases haccepted

/-! ### Alternatives for whole texts -/

/-- A pattern, read to its end, and the name of the group that it is put into. -/
structure Alternative where
  name : List Char
  pattern : List Char
  final : State
  reads : Reads (.initial {}) pattern final []
  terse : final.flags.verbose = false
  closed : final.outer = []

namespace Alternative

/-- The expression of the pattern on its own. -/
def own (e : Alternative) : Node := e.final.current.close.value

/-- The expression of the group: the pattern from the start of the text to its end. -/
def node (e : Alternative) : Node :=
  (Node.whole [e.own]).named (String.ofList e.name)

/-- The text of the group. -/
def text (e : Alternative) : List Char :=
  '(' :: '?' :: 'P' :: '<' :: e.name ++ '>' :: '^' :: '(' :: '?' :: ':' :: e.pattern ++
    [')', '$', ')']

/-- The names in the group. -/
def names (e : Alternative) : List String :=
  e.final.names ++ [String.ofList e.name]

/-- Behind the pattern the flags are those in front of it. -/
lemma outerFlags_final (e : Alternative) :
    e.final.current.name = none ∧ e.final.current.outerFlags = {} := by
  have hframes := e.reads.getLast?_frames
  simpa [State.frames, e.closed, State.initial] using hframes

/-- The group is opened, if it is accepted at all. -/
lemma readPattern?_open (e : Alternative) (hname : '>' ∉ e.name) {top : Group} {t : List Char}
    {a : Leveled Node} (h : readPattern? ⟨{}, ns, top, []⟩
      ('(' :: '?' :: 'P' :: '<' :: (e.name ++ '>' :: t)) = some a) :
    String.ofList e.name ∉ ns ∧ readPattern? ⟨{}, String.ofList e.name :: ns,
      ⟨some (String.ofList e.name), {}, [], []⟩, [top]⟩ t = some a := by
  have hstep := @step?_named ⟨{}, ns, top, []⟩ rfl e.name hname t
  split_ifs at hstep with hnew
  · rw [(Reads.single rfl hstep (by simp; omega)).readPattern?_eq] at h
    exact ⟨by simpa using (Bool.and_eq_true_iff.1 hnew).2, h⟩
  · rw [readPattern?_eq_none rfl (List.cons_ne_nil _ _) hstep] at h
    cases h

/-- The group is read, if it is accepted at all, and its names are then in use. -/
lemma readPattern?_text (e : Alternative) (hname : '>' ∉ e.name) {top : Group}
    {t : List Char} {a : Leveled Node} (hnodup : ns.Nodup)
    (h : readPattern? ⟨{}, ns, top, []⟩ (e.text ++ t) = some a) :
    (e.names ++ ns).Nodup ∧
      ∃ depth, readPattern? ⟨{}, e.names ++ ns, top.add e.node depth, []⟩ t = some a := by
  rw [text] at h
  simp only [List.cons_append, List.append_assoc, List.nil_append] at h
  obtain ⟨hnew, hopen⟩ := e.readPattern?_open hname h
  -- the group with the start of the text, in which the group of the pattern is opened
  let g : Group := ⟨some (String.ofList e.name), {}, [], []⟩
  let started : Group := g.add (startNode {}) 0
  have hstart : Reads ⟨{}, String.ofList e.name :: ns, g, [top]⟩
      ('^' :: '(' :: '?' :: ':' :: (e.pattern ++ ')' :: '$' :: ')' :: t))
      ⟨{}, String.ofList e.name :: ns, started, [top]⟩
      ('(' :: '?' :: ':' :: (e.pattern ++ ')' :: '$' :: ')' :: t)) :=
    .single rfl rfl (by simp)
  have hinner : Reads ⟨{}, String.ofList e.name :: ns, started, [top]⟩
      ('(' :: '?' :: ':' :: (e.pattern ++ ')' :: '$' :: ')' :: t))
      ((State.initial {}).inside (String.ofList e.name :: ns) [started, top])
      (e.pattern ++ ')' :: '$' :: ')' :: t) :=
    .single rfl rfl (by simp; omega)
  rw [(hstart.trans hinner).readPattern?_eq] at hopen
  obtain ⟨hnames, hread⟩ := e.reads.inside (List.nodup_cons.2 ⟨hnew, hnodup⟩) hopen
  have hinside : e.final.inside (String.ofList e.name :: ns) [started, top] =
      ⟨e.final.flags, e.names ++ ns, e.final.current, [started, top]⟩ := by
    simp [State.inside, names, e.closed]
  rw [hinside] at hnames hread
  -- behind the pattern its group is closed, and that of the name behind the end of the text
  let ended : Group := (started.add e.own (e.final.current.close.depth + 1)).add (endNode {}) 0
  obtain ⟨-, hflags⟩ := e.outerFlags_final
  have hclose : Reads ⟨e.final.flags, e.names ++ ns, e.final.current, [started, top]⟩
      (')' :: '$' :: ')' :: t)
      ⟨{}, e.names ++ ns, started.add e.own (e.final.current.close.depth + 1), [top]⟩
      ('$' :: ')' :: t) := by
    rw [← hflags]
    exact .single e.terse rfl (by simp)
  have hend : Reads ⟨{}, e.names ++ ns, started.add e.own (e.final.current.close.depth + 1), [top]⟩
      ('$' :: ')' :: t) ⟨{}, e.names ++ ns, ended, [top]⟩ (')' :: t) :=
    .single rfl rfl (by simp)
  have hpop : Reads ⟨{}, e.names ++ ns, ended, [top]⟩ (')' :: t)
      ⟨{}, e.names ++ ns, top.add e.node (ended.close.depth + 1), []⟩ t :=
    .single rfl rfl (by simp)
  exact ⟨hnames, _, ((hclose.trans hend).trans hpop).readPattern?_eq ▸ hread⟩

/-- Groups joined by bars are the alternatives of a choice, and no name is in two of them. -/
lemma readPattern?_joined {e : Alternative} {es : List Alternative}
    (hname : ∀ e' ∈ e :: es, '>' ∉ e'.name) {bs : List (Leveled Node)} {a : Leveled Node}
    (hnodup : ns.Nodup) (h : readPattern? ⟨{}, ns, ⟨none, {}, bs, []⟩, []⟩
      (List.intercalate ['|'] ((e :: es).map text)) = some a) :
    a.value = .altOf (bs.reverse.map (·.value) ++ (e :: es).map node) ∧
      ((e :: es).flatMap names ++ ns).Nodup := by
  obtain ⟨hfirst, hrest⟩ := List.forall_mem_cons.1 hname
  induction es generalizing e ns bs with
  | nil =>
    rw [List.map_singleton, List.intercalate_singleton, ← List.append_nil e.text] at h
    obtain ⟨hnames, depth, h⟩ := e.readPattern?_text hfirst hnodup h
    rw [readPattern?_nil] at h
    obtain rfl := Option.some.inj h
    refine ⟨?_, by simpa using hnames⟩
    simp [Group.close, Group.branch, Group.add, Node.seqOf]
  | cons e' es ih =>
    rw [List.map_cons, List.map_cons, List.intercalate_cons_cons, List.append_assoc,
      ← List.map_cons] at h
    obtain ⟨hnames, depth, h⟩ := e.readPattern?_text hfirst hnodup h
    let split : Group := (Group.add ⟨none, {}, bs, []⟩ e.node depth).split
    have hsplit : Reads ⟨{}, e.names ++ ns, Group.add ⟨none, {}, bs, []⟩ e.node depth, []⟩
        (['|'] ++ List.intercalate ['|'] ((e' :: es).map text))
        ⟨{}, e.names ++ ns, split, []⟩ (List.intercalate ['|'] ((e' :: es).map text)) :=
      .single rfl rfl (by simp)
    rw [hsplit.readPattern?_eq] at h
    obtain ⟨hvalue, hall⟩ := ih hrest hnames h (hrest e' List.mem_cons_self)
      fun e'' he'' => hrest e'' (List.mem_cons_of_mem e' he'')
    refine ⟨?_, ?_⟩
    · rw [hvalue]
      simp [Group.branch, Group.add, Node.seqOf]
    · rw [List.flatMap_cons, List.append_assoc]
      exact (List.perm_append_comm_assoc _ _ _).nodup_iff.1 hall

/-! ### Searching for the alternatives -/

variable {e : Alternative} {es before after : List Alternative} {p q : Place} {c : Captures}
  {re : Regex}

/-- A pattern means the same on its own as the alternative that it is read into. -/
lemma node_eq_own (h : ofPattern? (String.ofList e.pattern) = some re) : re.node = e.own := by
  obtain ⟨depth, hread⟩ := exists_readPattern?_eq h
  rw [String.toList_ofList, e.reads.readPattern?_eq, readPattern?_nil, e.closed] at hread
  exact (congrArg Leveled.value (Option.some.inj hread)).symm

lemma matches_node_iff :
    e.node.Matches p q ↔ p.before = none ∧ e.own.Matches p q ∧ q.behind = [] := by
  rw [node, matches_named, matches_whole_iff, matchesAll_singleton]

lemma isSome_preferred?_node_iff :
    (preferred? none [e.node] s).isSome ↔ e.own.Spans s := by
  rw [isSome_preferred?_iff [e.node] ⟨none, s⟩]
  simp only [matchesAll_singleton, matches_node_iff, true_and, Node.Spans]

/-- The alternatives are tried at the start of the text only, one after the other. -/
lemma leftmost?_altOf_node (hes : es ≠ []) : leftmost? (.altOf (es.map node)) none s =
    es.findSome? fun e => preferred? none [e.node] s := by
  have halts : es.map node ≠ [] := by simpa using hes
  have hfirst : preferred? none [.altOf (es.map node)] s =
      es.findSome? fun e => preferred? none [e.node] s := by
    rw [preferred?_altOf halts, List.findSome?_map]
    rfl
  cases s with
  | nil => exact hfirst
  | cons c s =>
    have hlater : leftmost? (.altOf (es.map node)) (some c) s = none := by
      rw [← Option.not_isSome_iff_eq_none, isSome_leftmost?_iff]
      rintro ⟨passed, p, q, -, hbefore, hmatch⟩
      obtain ⟨_, ha, hmatch⟩ := (matches_altOf halts).1 hmatch
      obtain ⟨e, -, rfl⟩ := List.mem_map.1 ha
      rw [(matches_node_iff.1 hmatch).1] at hbefore
      cases hlast : passed.getLast? <;> simp [hlast] at hbefore
    rw [leftmost?, hlater, Option.or_none, hfirst]

/-- The marks in a pattern are the names of its groups. -/
lemma names_own_subset (e : Alternative) : e.own.names ⊆ e.final.names := by
  have hmarked : e.final.Marked :=
    e.reads.marked (by simp [State.Marked, State.initial, Group.names])
  exact fun n hn => hmarked _ List.mem_cons_self (mem_names_close.1 hn)

/-- A match of the group has a text for its name, and passes no marks of other groups. -/
lemma captures_of_preferred?_node (h : preferred? none [e.node] s = some c) :
    (c.text? (String.ofList e.name)).isSome ∧ c.names ⊆ e.names := by
  obtain ⟨q, hpasses⟩ := exists_passesAll_of_preferred? h
  rw [passesAll_singleton] at hpasses
  refine ⟨isSome_text?_of_passes_named hpasses, fun n hn => ?_⟩
  rw [names, List.mem_append, List.mem_singleton]
  rcases mem_names_named.1 (hpasses.names_subset hn) with hname | hwhole
  · exact .inr hname
  · rw [names_whole, List.flatMap_singleton] at hwhole
    exact .inl (e.names_own_subset hwhole)

/-- What is found in a text by the groups joined. -/
lemma captures?_joined (hes : es ≠ []) (hname : ∀ e ∈ es, '>' ∉ e.name)
    (hre : ofPattern? (String.intercalate "|" (es.map fun e => String.ofList e.text)) = some re)
    (s : String) :
    re.captures? s = (es.findSome? fun e => preferred? none [e.node] s.toList) ∧
      (es.flatMap names).Nodup := by
  obtain ⟨depth, hread⟩ := exists_readPattern?_eq hre
  obtain ⟨e, es, rfl⟩ := List.exists_cons_of_ne_nil hes
  rw [String.toList_intercalate, List.map_map] at hread
  simp only [Function.comp_def, String.toList_ofList] at hread
  obtain ⟨hvalue, hnodup⟩ := readPattern?_joined hname List.nodup_nil hread
  rw [List.append_nil] at hnodup
  rw [captures?, search_eq_leftmost?, show re.node = _ from hvalue]
  exact ⟨leftmost?_altOf_node hes, hnodup⟩

/-- Nothing is found if and only if no pattern spans the text. -/
theorem captures?_eq_none_iff (hes : es ≠ []) (hname : ∀ e ∈ es, '>' ∉ e.name)
    (hre : ofPattern? (String.intercalate "|" (es.map fun e => String.ofList e.text)) = some re)
    (s : String) : re.captures? s = none ↔ ∀ e ∈ es, ¬e.own.Spans s.toList := by
  rw [(captures?_joined hes hname hre s).1, List.findSome?_eq_none_iff]
  refine forall₂_congr fun e _ => ?_
  rw [← isSome_preferred?_node_iff, Option.not_isSome_iff_eq_none]

/-- The group of the first pattern that spans the text takes part, and none before it does. -/
theorem exists_captures?_eq (hname : ∀ e' ∈ before ++ e :: after, '>' ∉ e'.name)
    (hre : ofPattern? (String.intercalate "|"
      ((before ++ e :: after).map fun e => String.ofList e.text)) = some re)
    {s : String} (hspans : e.own.Spans s.toList)
    (hbefore : ∀ e' ∈ before, ¬e'.own.Spans s.toList) :
    ∃ c, re.captures? s = some c ∧ (c.text? (String.ofList e.name)).isSome ∧
      ∀ e' ∈ before, c.text? (String.ofList e'.name) = none := by
  obtain ⟨hcaptures, hnodup⟩ := captures?_joined (by simp) hname hre s
  obtain ⟨c, hfound⟩ := Option.isSome_iff_exists.1 (isSome_preferred?_node_iff.2 hspans)
  have hnone : before.findSome? (fun e => preferred? none [e.node] s.toList) = none := by
    refine List.findSome?_eq_none_iff.2 fun e' he' => ?_
    rw [← Option.not_isSome_iff_eq_none, isSome_preferred?_node_iff]
    exact hbefore e' he'
  rw [List.findSome?_append, hnone, Option.none_or, List.findSome?_cons, hfound] at hcaptures
  obtain ⟨htext, hsubset⟩ := captures_of_preferred?_node hfound
  refine ⟨c, hcaptures, htext, fun e' he' => text?_eq_none fun hother => ?_⟩
  rw [List.flatMap_append, List.flatMap_cons] at hnodup
  obtain ⟨-, -, hdisjoint⟩ := List.nodup_append.1 hnodup
  have hown : String.ofList e'.name ∈ before.flatMap names :=
    List.mem_flatMap.2 ⟨e', he', List.mem_append_right _ (List.mem_singleton_self _)⟩
  exact hdisjoint _ hown _ (List.mem_append_left _ (hsubset hother)) rfl

end Alternative

end Disclosure.Regex
