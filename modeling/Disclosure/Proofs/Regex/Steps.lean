import Disclosure.Proofs.Regex.Marks
import Disclosure.Proofs.Regex.Reading

/-!
# Steps of reading

A step of reading opens or closes a group, begins an alternative, or changes the parts of the
innermost group (`next_of_step?`). So names are never used twice, and all marks in the expressions
read so far are names in use (`Reads.marked`); what lay around the group in which reading began is
still around it (`Reads.getLast?_frames`).
-/

namespace Disclosure.Regex

variable {f : Flags} {st st' : State} {s rest : List Char} {n : String} {g : Group}

/-! ### Steps -/

/-- What a step of reading can do to the state. -/
inductive State.Next : State → State → Prop where
  | push (st : State) (name : Option String) (flags : Flags) (hname : ∀ n ∈ name, n ∉ st.names) :
    Next st (st.push name flags)
  | flags (st : State) (flags : Flags) :
    Next st { st with
      flags
      current := { st.current with parts := ⟨none, 0⟩ :: st.current.parts } }
  | pop {st st' : State} (h : st.pop? = some st') : Next st st'
  | split (st : State) : Next st { st with current := st.current.split }
  | add (st : State) (a : Node) (depth : Nat) (ha : a.names = []) : Next st (st.add a depth)
  | times {st st' : State} {lo : Nat} {hi : Option Nat} {lazy : Bool}
    (h : st.repeat? lo hi lazy = some st') : Next st st'

lemma names_of_atomNode? {a : Atom} {n : Node} (h : atomNode? f a = some n) : n.names = [] := by
  cases a with
  | char c =>
    cases h
    rfl
  | set a =>
    rw [atomNode?] at h
    split_ifs at h
    cases h
    rfl
  | place a =>
    cases h
    rfl

lemma names_of_dotNode? {n : Node} (h : dotNode? f = some n) : n.names = [] := by
  rw [dotNode?] at h
  split_ifs at h <;>
  · cases h
    rfl

lemma next_of_openNamed? (h : openNamed? st s = some (st', rest)) : st.Next st' := by
  simp only [openNamed?] at h
  split at h
  · cases h
  · split_ifs at h with hname
    cases h
    refine .push st _ _ ?_
    simpa using (Bool.and_eq_true_iff.1 hname).2

lemma next_of_openFlags? (h : openFlags? st s = some (st', rest)) : st.Next st' := by
  rw [openFlags?] at h
  split at h
  · cases h
    exact .push st none _ nofun
  · cases h
    exact .flags st _
  · cases h

/--
The openings of groups that are accepted, by what follows the parenthesis: a name, with or without
its letter, flags, or neither.
-/
inductive Opens (st : State) : List Char → State → List Char → Prop
  | named {s rest : List Char} {st' : State} (h : openNamed? st s = some (st', rest)) :
      Opens st ('?' :: 'P' :: '<' :: s) st' rest
  | angle {s rest : List Char} {st' : State} (hbehind : ∀ s', s ≠ ['='] ++ s')
      (hnot : ∀ s', s ≠ ['!'] ++ s') (h : openNamed? st s = some (st', rest)) :
      Opens st ('?' :: '<' :: s) st' rest
  | flags {s rest : List Char} {st' : State} (hname : ∀ s', s ≠ ['P', '<'] ++ s')
      (hangle : ∀ s', s ≠ ['<'] ++ s') (hclose : ∀ s', s ≠ [')'] ++ s')
      (h : openFlags? st s = some (st', rest)) : Opens st ('?' :: s) st' rest
  | plain {s : List Char} (hflags : ∀ s', s ≠ ['?'] ++ s') :
      Opens st s (st.push none st.flags) s

lemma opens_of_openGroup? (h : openGroup? st s = some (st', rest)) :
    Opens st (skip st.flags s) st' rest := by
  rw [openGroup?] at h
  split at h
  · next heq => exact heq ▸ .named h
  -- what looks behind is not supported
  · cases h
  · cases h
  · next hbehind hnot heq => exact heq ▸ .angle hbehind hnot h
  · cases h
  · next hname _ _ hangle hclose heq => exact heq ▸ .flags hname hangle hclose h
  · next hflags =>
    cases h
    exact .plain hflags

lemma next_of_openGroup? (h : openGroup? st s = some (st', rest)) : st.Next st' := by
  have hopens := opens_of_openGroup? h
  generalize skip st.flags s = opening at hopens
  cases hopens with
  | named h | angle _ _ h => exact next_of_openNamed? h
  | flags _ _ _ h => exact next_of_openFlags? h
  | plain => exact .push st none _ nofun

/-- A step of reading a pattern is one of few kinds of change. -/
theorem next_of_step? (h : step? st s = some (st', rest)) : st.Next st' := by
  rw [step?.eq_def] at h
  split at h
  · cases h
  -- a group is opened or closed, or its next branch begins
  · exact next_of_openGroup? h
  · obtain ⟨_, hpop, ⟨⟩⟩ := Option.map_eq_some_iff.1 h
    exact .pop hpop
  · cases h
    exact .split st
  -- a class in brackets
  · obtain ⟨_, hclass, ⟨⟩⟩ := Option.map_eq_some_iff.1 h
    exact .add st _ _ rfl
  -- a repetition by one of the three signs, or with bounds
  · obtain ⟨_, hrepeat, ⟨⟩⟩ := Option.map_eq_some_iff.1 h
    exact .times hrepeat
  · obtain ⟨_, hrepeat, ⟨⟩⟩ := Option.map_eq_some_iff.1 h
    exact .times hrepeat
  · obtain ⟨_, hrepeat, ⟨⟩⟩ := Option.map_eq_some_iff.1 h
    exact .times hrepeat
  · simp only [Option.bind_eq_bind, Option.bind_eq_some_iff] at h
    obtain ⟨_, hbounds, _, hrepeat, ⟨⟩⟩ := h
    exact .times hrepeat
  -- an escape, a dot, an end of the text, and a character that stands for itself
  · simp only [Option.bind_eq_bind, Option.bind_eq_some_iff] at h
    obtain ⟨⟨a, _⟩, hescape, n, hn, ⟨⟩⟩ := h
    exact .add st n 0 (names_of_atomNode? hn)
  · obtain ⟨n, hdot, ⟨⟩⟩ := Option.map_eq_some_iff.1 h
    exact .add st n 0 (names_of_dotNode? hdot)
  · cases h
    exact .add st _ 0 rfl
  · cases h
    exact .add st _ 0 rfl
  · cases h
    exact .add st _ 0 rfl

/-! ### Names -/

/-- The names of a group and of the marks in it. -/
def Group.names (g : Group) : List String :=
  g.name.toList ++ g.branches.flatMap (·.value.names) ++
    g.parts.flatMap fun part => part.value.elim [] Node.names

lemma mem_names_branch : n ∈ g.branch.value.names ↔
    n ∈ g.parts.flatMap fun part => part.value.elim [] Node.names := by
  rw [Group.branch, names_seqOf]
  simp only [List.mem_flatMap, List.mem_filterMap, List.mem_reverse]
  constructor
  · rintro ⟨a, ⟨part, hpart, ha⟩, hn⟩
    exact ⟨part, hpart, by rwa [ha]⟩
  · rintro ⟨part, hpart, hn⟩
    cases hvalue : part.value with
    | none =>
      rw [hvalue] at hn
      cases hn
    | some a => exact ⟨a, ⟨part, hpart, hvalue⟩, by rwa [hvalue] at hn⟩

lemma mem_names_close : n ∈ g.close.value.names ↔ n ∈ g.names := by
  have hbody : n ∈ (Node.altOf ((g.branch :: g.branches).reverse.map (·.value))).names ↔
      n ∈ g.branches.flatMap (·.value.names) ∨
        n ∈ g.parts.flatMap fun part => part.value.elim [] Node.names := by
    rw [names_altOf, ← mem_names_branch]
    simp [or_comm]
  rw [Group.close, Group.names]
  cases g.name with
  | none => simpa using hbody
  | some name =>
    simp only [mem_names_named, List.mem_append, hbody, Option.toList_some, List.mem_singleton]
    tauto

lemma mem_names_add {a : Node} {depth : Nat} :
    n ∈ (g.add a depth).names ↔ n ∈ g.names ∨ n ∈ a.names := by
  simp only [Group.add, Group.names, List.flatMap_cons, List.mem_append, Option.elim_some]
  tauto

/-- Whether all marks in the groups are names in use. -/
def State.Marked (st : State) : Prop :=
  ∀ g ∈ st.current :: st.outer, g.names ⊆ st.names

/-- No name is used twice. -/
lemma State.Next.nodup (h : st.Next st') (hst : st.names.Nodup) : st'.names.Nodup := by
  cases h with
  | push name flags hname =>
    cases name with
    | none => exact hst
    | some n => exact List.nodup_cons.2 ⟨hname n rfl, hst⟩
  | flags flags => exact hst
  | pop h =>
    rw [State.pop?] at h
    split at h <;> cases h
    exact hst
  | split => exact hst
  | add a depth ha => exact hst
  | times h =>
    obtain ⟨_, _, ⟨⟩⟩ := Option.bind_eq_some_iff.1 h
    exact hst

lemma State.Next.marked (h : st.Next st') (hst : st.Marked) : st'.Marked := by
  obtain ⟨hcurrent, houter⟩ := List.forall_mem_cons.1 hst
  cases h with
  | push name flags hname =>
    refine List.forall_mem_cons.2 ⟨?_, fun g hg => ?_⟩
    · simp [Group.names, State.push]
    · exact List.subset_append_of_subset_right _ (hst g hg)
  | flags flags => exact List.forall_mem_cons.2 ⟨hcurrent, houter⟩
  | pop h =>
    rw [State.pop?] at h
    split at h
    · cases h
    · next g outer hst =>
      cases h
      rw [hst] at houter
      obtain ⟨hg, houter⟩ := List.forall_mem_cons.1 houter
      refine List.forall_mem_cons.2 ⟨fun n hn => ?_, houter⟩
      rcases mem_names_add.1 hn with hn | hn
      · exact hg hn
      · exact hcurrent (mem_names_close.1 hn)
  | split =>
    refine List.forall_mem_cons.2 ⟨fun n hn => hcurrent ?_, houter⟩
    rw [Group.names, Group.split] at hn
    simp only [List.flatMap_cons, List.flatMap_nil, List.append_nil, List.mem_append,
      mem_names_branch] at hn
    simp only [Group.names, List.mem_append]
    tauto
  | add a depth ha =>
    refine List.forall_mem_cons.2 ⟨fun n hn => ?_, houter⟩
    rcases mem_names_add.1 hn with hn | hn
    · exact hcurrent hn
    · rw [ha] at hn
      cases hn
  | times h =>
    obtain ⟨⟨a, parts⟩, hlast, ⟨⟩⟩ := Option.bind_eq_some_iff.1 h
    refine List.forall_mem_cons.2 ⟨fun n hn => hcurrent ?_, houter⟩
    rw [takeLast?.eq_def] at hlast
    split at hlast
    · next hparts =>
      cases hlast
      rw [Group.names, hparts]
      exact hn
    · cases hlast

lemma Reads.marked {rest : List Char} (h : Reads st s st' rest) (hst : st.Marked) : st'.Marked := by
  induction h with
  | refl => exact hst
  | step _ hstep _ _ ih => exact ih ((next_of_step? hstep).marked hst)

/-! ### Around a group -/

/-- The names of the open groups and the flags around them, the innermost first. -/
def State.frames (st : State) : List (Option String × Flags) :=
  (st.current :: st.outer).map fun g => (g.name, g.outerFlags)

lemma State.Next.getLast?_frames (h : st.Next st') : st'.frames.getLast? = st.frames.getLast? := by
  cases h with
  | push name flags hname => rfl
  | flags flags => rfl
  | pop h =>
    rw [State.pop?] at h
    split at h
    · cases h
    · next g outer houter =>
      cases h
      simp [State.frames, houter, Group.add]
  | split => rfl
  | add a depth ha => rfl
  | times h =>
    obtain ⟨_, _, ⟨⟩⟩ := Option.bind_eq_some_iff.1 h
    rfl

lemma Reads.getLast?_frames {rest : List Char} (h : Reads st s st' rest) :
    st'.frames.getLast? = st.frames.getLast? := by
  induction h with
  | refl => rfl
  | step _ hstep _ _ ih => exact ih.trans (next_of_step? hstep).getLast?_frames

end Disclosure.Regex
