import Mathlib.Data.List.Basic
import Disclosure.Token.Group

/-!
# Groups without a memory

What a group expands to when nothing is remembered (`unrollGroup`), and a proof that remembering
changes no answer. The groups remembered are sound (`Memo.Sound`): on every path that holds none
of them, each unrolls to what is remembered. Every expansion answers what unrolling answers, also
if it fails, and leaves the memory sound (`Remembers`).
-/

namespace Disclosure

/-! ### Unrolling -/

/-- The tokens that a group is declared with, references unexpanded. -/
def declaredTokens (table : Json.Members) (name : String) : Except GroupError (List String) :=
  match table.get? name with
  | none => .error (.unknown name)
  | some members => if members.isObject then .error (.notASequence name) else members.flatten

lemma mem_of_declaredTokens {table : Json.Members} {name : String} {tokens : List String}
    (h : declaredTokens table name = .ok tokens) : ∃ v, (name, v) ∈ table := by
  rw [declaredTokens] at h
  split at h
  · cases h
  · next v hv => exact ⟨v, Json.Members.mem_of_get? hv⟩

set_option linter.unusedVariables false in
mutual

/-- The members of a group, all references expanded anew. -/
def unrollGroup (table : Json.Members) (path : List String) (name : String) :
    Except GroupError Tokens :=
  if hp : name ∈ path then .error (.circular name (cycleAt path name))
  else
    match h : declaredTokens table name with
    | .error e => .error e
    | .ok tokens => unrollTokens table (path ++ [name]) .empty tokens
termination_by (unvisited Prod.fst table path, 0)
decreasing_by
  obtain ⟨v, hv⟩ := mem_of_declaredTokens h
  exact Prod.Lex.left _ _ (unvisited_lt hv hp)

/-- Append tokens to `out`, references expanded anew. -/
def unrollTokens (table : Json.Members) (path : List String) (out : Tokens) :
    List String → Except GroupError Tokens
  | [] => .ok out
  | t :: ts =>
    match referencedGroup? t with
    | none => unrollTokens table path (out.insert t) ts
    | some name =>
      match unrollGroup table path name with
      | .error e => .error e
      | .ok tokens => unrollTokens table path (out.union tokens) ts
termination_by ts => (unvisited Prod.fst table path, ts.length + 1)

end

lemma unrollGroup_eq (table : Json.Members) (path : List String) (name : String) :
    unrollGroup table path name =
      if name ∈ path then .error (.circular name (cycleAt path name))
      else
        match declaredTokens table name with
        | .error e => .error e
        | .ok tokens => unrollTokens table (path ++ [name]) .empty tokens := by
  rw [unrollGroup]
  split_ifs
  · rfl
  · split <;> simp only [*]

/-- The tokens of a value, all references expanded anew. -/
def unrollValue (table : Json.Members) (names : Json) : Except GroupError Tokens :=
  match names.flatten with
  | .error e => .error e
  | .ok tokens =>
    match soleReference? tokens with
    | some name => unrollGroup table [] name
    | none => unrollTokens table [] .empty tokens

/-! ### Sound memories -/

namespace Memo

/-- Whether no name on a path is remembered. -/
def Clear (memo : Memo) (path : List String) : Prop :=
  ∀ name ∈ path, memo.lookup name = none

/-- What is remembered of a group is what it unrolls to on any path without remembered names. -/
def Sound (table : Json.Members) (memo : Memo) : Prop :=
  ∀ name out, memo.lookup name = some out →
    ∀ path, memo.Clear path → unrollGroup table path name = .ok out

variable {table : Json.Members} {memo : Memo} {path : List String} {name : String} {out : Tokens}

lemma sound_nil : Sound table [] := by
  intro name out h
  simp at h

lemma clear_nil (memo : Memo) : memo.Clear [] := by
  simp [Clear]

lemma clear_concat : memo.Clear (path ++ [name]) ↔ memo.Clear path ∧ memo.lookup name = none := by
  simp [Clear, or_imp, forall_and]

lemma clear_cons : Clear ((name, out) :: memo) path ↔ name ∉ path ∧ memo.Clear path := by
  constructor
  · intro h
    refine ⟨fun hn => by simpa using h name hn, fun n hn => ?_⟩
    have := h n hn
    rw [List.lookup_cons] at this
    split at this
    · cases this
    · exact this
  · rintro ⟨hname, h⟩ n hn
    have hne : (n == name) = false := beq_eq_false_iff_ne.2 fun heq => hname (heq ▸ hn)
    rw [List.lookup_cons, hne]
    exact h n hn

end Memo

/--
What an expansion answers and remembers, next to what it unrolls to on a path. A success holds on
every path that avoids the groups remembered afterwards.
-/
structure Remembers (table : Json.Members) (path : List String) (memo : Memo)
    (unroll : List String → Except GroupError Tokens) (result : Except GroupError Tokens × Memo) :
    Prop where
  answer : result.1 = unroll path
  sound : result.2.Sound table
  clear : result.2.Clear path
  /-- Nothing is forgotten. -/
  grows : ∀ p, result.2.Clear p → memo.Clear p
  steady : ∀ out, result.1 = .ok out → ∀ p, result.2.Clear p → unroll p = .ok out

namespace Remembers

variable {table : Json.Members} {path : List String} {memo : Memo}
  {unroll : List String → Except GroupError Tokens}

/-- A failure that leaves the memory as it is. -/
lemma of_error (hs : memo.Sound table) (hc : memo.Clear path) {e : GroupError}
    (h : unroll path = .error e) : Remembers table path memo unroll (.error e, memo) where
  answer := h.symm
  sound := hs
  clear := hc
  grows _ hp := hp
  steady _ hout := nomatch hout

/-- A success that leaves the memory as it is. -/
lemma of_ok (hs : memo.Sound table) (hc : memo.Clear path) {out : Tokens}
    (h : ∀ p, memo.Clear p → unroll p = .ok out) :
    Remembers table path memo unroll (.ok out, memo) where
  answer := (h path hc).symm
  sound := hs
  clear := hc
  grows _ hp := hp
  steady _ hout := by
    cases hout
    exact h

/-- A failure among the tokens of a group. -/
lemma fails_within {name : String} {tokens : List String} {e : GroupError} {memo' : Memo}
    (hp : name ∉ path) (ht : declaredTokens table name = .ok tokens)
    (h : Remembers table (path ++ [name]) memo
      (fun p => unrollTokens table p .empty tokens) (.error e, memo')) :
    Remembers table path memo (fun p => unrollGroup table p name) (.error e, memo') where
  answer := by
    rw [unrollGroup_eq, if_neg hp, ht]
    exact h.answer
  sound := h.sound
  clear := (Memo.clear_concat.1 h.clear).1
  grows := h.grows
  steady _ hout := nomatch hout

/-- The last step of a success: the tokens of a group are remembered under its name. -/
lemma remember {name : String} {tokens : List String} {out : Tokens} {memo' : Memo}
    (hp : name ∉ path) (ht : declaredTokens table name = .ok tokens)
    (h : Remembers table (path ++ [name]) memo
      (fun p => unrollTokens table p .empty tokens) (.ok out, memo')) :
    Remembers table path memo (fun p => unrollGroup table p name)
      (.ok out, (name, out) :: memo') := by
  obtain ⟨hclear, hname⟩ := Memo.clear_concat.1 h.clear
  have hunroll : ∀ p, Memo.Clear ((name, out) :: memo') p → unrollGroup table p name = .ok out := by
    intro p hcp
    obtain ⟨hnp, hcp⟩ := Memo.clear_cons.1 hcp
    rw [unrollGroup_eq, if_neg hnp, ht]
    exact h.steady out rfl (p ++ [name]) (Memo.clear_concat.2 ⟨hcp, hname⟩)
  have hcons : Memo.Clear ((name, out) :: memo') path := Memo.clear_cons.2 ⟨hp, hclear⟩
  refine ⟨(hunroll path hcons).symm, ?_, hcons, ?_, ?_⟩
  · intro n o hn p hcp
    rw [List.lookup_cons] at hn
    split at hn
    · next heq =>
      cases hn
      rw [eq_of_beq heq]
      exact hunroll p hcp
    · exact h.sound n o hn p (Memo.clear_cons.1 hcp).2
  · intro p hcp
    exact h.grows p (Memo.clear_cons.1 hcp).2
  · intro o ho
    cases ho
    exact hunroll

/-- A reference to a group that fails. -/
lemma fails {t name : String} {ts : List String} {out : Tokens} {e : GroupError} {memo' : Memo}
    (ht : referencedGroup? t = some name)
    (h : Remembers table path memo (fun p => unrollGroup table p name) (.error e, memo')) :
    Remembers table path memo (fun p => unrollTokens table p out (t :: ts)) (.error e, memo') where
  answer := by
    have := h.answer
    simp only [unrollTokens, ht, ← this]
  sound := h.sound
  clear := h.clear
  grows := h.grows
  steady _ hout := nomatch hout

/-- A reference to a group, and then the tokens behind it. -/
lemma followed {t name : String} {ts : List String} {out tokens : Tokens} {memo' : Memo}
    {result : Except GroupError Tokens × Memo} (ht : referencedGroup? t = some name)
    (h : Remembers table path memo (fun p => unrollGroup table p name) (.ok tokens, memo'))
    (hrest : Remembers table path memo'
      (fun p => unrollTokens table p (out.union tokens) ts) result) :
    Remembers table path memo (fun p => unrollTokens table p out (t :: ts)) result where
  answer := by
    have := h.answer
    simp only [unrollTokens, ht, ← this]
    exact hrest.answer
  sound := hrest.sound
  clear := hrest.clear
  grows p hp := h.grows p (hrest.grows p hp)
  steady o ho p hp := by
    have := h.steady tokens rfl p (hrest.grows p hp)
    simp only [unrollTokens, ht, this]
    exact hrest.steady o ho p hp

end Remembers

/-! ### Expansion -/

lemma expandGroup_eq (table : Json.Members) (path : List String) (memo : Memo) (name : String) :
    expandGroup table path memo name =
      match memo.lookup name with
      | some done => (.ok done, memo)
      | none =>
        if name ∈ path then (.error (.circular name (cycleAt path name)), memo)
        else
          match declaredTokens table name with
          | .error e => (.error e, memo)
          | .ok tokens =>
            match expandTokens table (path ++ [name]) memo .empty tokens with
            | (.error e, memo) => (.error e, memo)
            | (.ok out, memo) => (.ok out, (name, out) :: memo) := by
  rw [expandGroup, declaredTokens]
  cases memo.lookup name with
  | some done => rfl
  | none =>
    by_cases hp : name ∈ path
    · simp only [hp, if_true, dif_pos]
    · simp only [hp, if_false, dif_neg, not_false_eq_true]
      split
      · next hv => simp only [hv]
      · next members hv =>
        simp only [hv]
        split_ifs
        · rfl
        · cases members.flatten <;> rfl

mutual

lemma remembers_expandGroup {table : Json.Members} {path : List String} {memo : Memo}
    (name : String) (hs : memo.Sound table) (hc : memo.Clear path) :
    Remembers table path memo (fun p => unrollGroup table p name)
      (expandGroup table path memo name) := by
  rw [expandGroup_eq]
  cases hl : memo.lookup name with
  | some done => exact .of_ok hs hc (hs name done hl)
  | none =>
    by_cases hp : name ∈ path
    · rw [if_pos hp]
      exact .of_error hs hc (by rw [unrollGroup_eq, if_pos hp])
    · rw [if_neg hp]
      cases ht : declaredTokens table name with
      | error e => exact .of_error hs hc (by rw [unrollGroup_eq, if_neg hp, ht])
      | ok tokens =>
        have ih := remembers_expandTokens .empty hs (Memo.clear_concat.2 ⟨hc, hl⟩) tokens
        rcases hr : expandTokens table (path ++ [name]) memo .empty tokens with ⟨e | out, memo'⟩
        · rw [hr] at ih
          simp only [hr]
          exact .fails_within hp ht ih
        · rw [hr] at ih
          simp only [hr]
          exact .remember hp ht ih
termination_by (unvisited Prod.fst table path, 0)
decreasing_by
  obtain ⟨v, hv⟩ := mem_of_declaredTokens ht
  exact Prod.Lex.left _ _ (unvisited_lt hv hp)

lemma remembers_expandTokens {table : Json.Members} {path : List String} {memo : Memo}
    (out : Tokens) (hs : memo.Sound table) (hc : memo.Clear path) : ∀ tokens,
    Remembers table path memo (fun p => unrollTokens table p out tokens)
      (expandTokens table path memo out tokens)
  | [] => by
    rw [expandTokens]
    exact .of_ok hs hc fun p _ => unrollTokens.eq_1 table p out
  | t :: ts => by
    rw [expandTokens]
    cases ht : referencedGroup? t with
    | none =>
      simp only [unrollTokens, ht]
      exact remembers_expandTokens (out.insert t) hs hc ts
    | some name =>
      have ih := remembers_expandGroup name hs hc
      rcases hr : expandGroup table path memo name with ⟨e | tokens, memo'⟩
      · rw [hr] at ih
        simp only [hr]
        exact .fails ht ih
      · rw [hr] at ih
        simp only [hr]
        exact .followed ht ih (remembers_expandTokens (out.union tokens) ih.sound ih.clear ts)
termination_by tokens => (unvisited Prod.fst table path, tokens.length + 1)

end

/-! ### Resolvers -/

namespace Resolver

/-- Whether a resolver is for a table and has remembered nothing but what its groups unroll to. -/
def Serves (r : Resolver) (table : Json.Members) : Prop :=
  r.table = table ∧ r.memo.Sound table

lemma serves_ofTable (table : Json.Members) : (ofTable table).Serves table :=
  ⟨rfl, Memo.sound_nil⟩

variable {r : Resolver} {table : Json.Members}

lemma Serves.group (h : r.Serves table) (name : String) :
    (r.group name).1 = unrollGroup table [] name ∧ (r.group name).2.Serves table := by
  obtain ⟨rfl, hs⟩ := h
  have hr := remembers_expandGroup name hs (Memo.clear_nil r.memo)
  exact ⟨hr.answer, rfl, hr.sound⟩

lemma Serves.expand (h : r.Serves table) (names : Json) :
    (r.expand names).1 = unrollValue table names ∧ (r.expand names).2.Serves table := by
  rw [Resolver.expand, unrollValue]
  cases names.flatten with
  | error e => exact ⟨rfl, h⟩
  | ok tokens =>
    cases hsole : soleReference? tokens with
    | some name => simpa only [hsole] using h.group name
    | none =>
      obtain ⟨rfl, hs⟩ := h
      have hr := remembers_expandTokens .empty hs (Memo.clear_nil r.memo) tokens
      simp only [hsole]
      exact ⟨hr.answer, rfl, hr.sound⟩

lemma Serves.resolve (h : r.Serves table) (names : Json) :
    (r.resolve names).1 = (unrollValue table names).map .ofTokens ∧
      (r.resolve names).2.Serves table := by
  rw [Resolver.resolve, ← (h.expand names).1]
  exact ⟨rfl, (h.expand names).2⟩

end Resolver

end Disclosure
