import Mathlib
import Disclosure.Proofs.Token.Failure

/-!
# Expansions under observation

An expansion that also records how deep its calls are nested and which names are on its path
(`watchGroup`). Without the record it is the expansion (`watchGroup_snd`), and every call and every
name put on the path is recorded (`Resolver.mem_watch_iff`). The names on the path are always
distinct groups of the table, so the calls nest at most once more than there are groups, and what
cannot be expanded fails with a cycle of references or a group that is not declared
(`nested_and_genuine`).
-/

namespace Disclosure

/-! ### Moments -/

/-- A moment of an expansion: how many calls are nested, and the names on the path. -/
structure Moment where
  depth : Nat
  path : List String

/-- The names of the groups of a table. -/
def groupNames (table : Json.Members) : List String :=
  (table.map Prod.fst).eraseDups

/-- Whether the path is one of distinct groups, and the calls nest no deeper than groups allow. -/
structure Moment.Bounded (table : Json.Members) (m : Moment) : Prop where
  nodup : m.path.Nodup
  declared : ∀ g ∈ m.path, DeclaresTokens table g
  depth_le : m.depth ≤ (groupNames table).length + 1

lemma DeclaresTokens.mem_groupNames {table : Json.Members} {g : String}
    (h : DeclaresTokens table g) : g ∈ groupNames table := by
  obtain ⟨v, hv, -⟩ := h
  exact List.mem_eraseDups.2 (List.mem_map.2 ⟨(g, v), Json.Members.mem_of_get? hv, rfl⟩)

/-- Distinct groups are no more than there are groups. -/
lemma length_le_groupNames {table : Json.Members} {path : List String} (hp : path.Nodup)
    (hd : ∀ g ∈ path, DeclaresTokens table g) : path.length ≤ (groupNames table).length :=
  (List.subperm_of_subset hp fun g hg => (hd g hg).mem_groupNames).length_le

/-! ### Observed expansion -/

set_option linter.unusedVariables false in
mutual

/-- Expand a group as the call number `depth` of those that are nested. -/
def watchGroup (table : Json.Members) (depth : Nat) (path : List String) (memo : Memo)
    (name : String) : List Moment × Except GroupError Tokens × Memo :=
  match memo.lookup name with
  | some done => ([⟨depth, path⟩], .ok done, memo)
  | none =>
    if hp : name ∈ path then ([⟨depth, path⟩], .error (.circular name (cycleAt path name)), memo)
    else
      match ht : declaredTokens table name with
      | .error e => ([⟨depth, path⟩], .error e, memo)
      | .ok tokens =>
        match watchTokens table depth (path ++ [name]) memo .empty tokens with
        | (moments, .error e, memo) =>
          (⟨depth, path⟩ :: ⟨depth, path ++ [name]⟩ :: moments, .error e, memo)
        | (moments, .ok out, memo) =>
          (⟨depth, path⟩ :: ⟨depth, path ++ [name]⟩ :: moments, .ok out, (name, out) :: memo)
termination_by (unvisited Prod.fst table path, 0)
decreasing_by
  obtain ⟨v, hv⟩ := mem_of_declaredTokens ht
  exact Prod.Lex.left _ _ (unvisited_lt hv hp)

/-- Append tokens to `out` below `depth` calls, references expanded by further calls. -/
def watchTokens (table : Json.Members) (depth : Nat) (path : List String) (memo : Memo)
    (out : Tokens) : List String → List Moment × Except GroupError Tokens × Memo
  | [] => ([], .ok out, memo)
  | t :: ts =>
    match referencedGroup? t with
    | none => watchTokens table depth path memo (out.insert t) ts
    | some name =>
      match watchGroup table (depth + 1) path memo name with
      | (moments, .error e, memo) => (moments, .error e, memo)
      | (moments, .ok tokens, memo) =>
        let (more, result) := watchTokens table depth path memo (out.union tokens) ts
        (moments ++ more, result)
termination_by ts => (unvisited Prod.fst table path, ts.length + 1)

end

lemma watchGroup_eq (table : Json.Members) (depth : Nat) (path : List String) (memo : Memo)
    (name : String) :
    watchGroup table depth path memo name =
      match memo.lookup name with
      | some done => ([⟨depth, path⟩], .ok done, memo)
      | none =>
        if name ∈ path then ([⟨depth, path⟩], .error (.circular name (cycleAt path name)), memo)
        else
          match declaredTokens table name with
          | .error e => ([⟨depth, path⟩], .error e, memo)
          | .ok tokens =>
            match watchTokens table depth (path ++ [name]) memo .empty tokens with
            | (moments, .error e, memo) =>
              (⟨depth, path⟩ :: ⟨depth, path ++ [name]⟩ :: moments, .error e, memo)
            | (moments, .ok out, memo) =>
              (⟨depth, path⟩ :: ⟨depth, path ++ [name]⟩ :: moments, .ok out,
                (name, out) :: memo) := by
  rw [watchGroup]
  cases memo.lookup name with
  | some done => rfl
  | none =>
    by_cases hp : name ∈ path
    · simp only [hp, if_true, dif_pos]
    · simp only [hp, if_false, dif_neg, not_false_eq_true]
      split <;> simp only [*]

mutual

/-- Observation does not change the expansion of a group. -/
lemma watchGroup_snd (table : Json.Members) (depth : Nat) (path : List String) (memo : Memo)
    (name : String) :
    (watchGroup table depth path memo name).2 = expandGroup table path memo name := by
  rw [watchGroup_eq, expandGroup_eq]
  cases memo.lookup name with
  | some done => rfl
  | none =>
    by_cases hp : name ∈ path
    · simp only [hp, if_true]
    · simp only [hp, if_false]
      cases ht : declaredTokens table name with
      | error e => rfl
      | ok tokens =>
        have ih := watchTokens_snd table depth (path ++ [name]) memo .empty tokens
        rcases hw : watchTokens table depth (path ++ [name]) memo .empty tokens
          with ⟨moments, e | out, memo'⟩ <;> (rw [hw] at ih; simp only [hw, ← ih])
termination_by (unvisited Prod.fst table path, 0)
decreasing_by
  obtain ⟨v, hv⟩ := mem_of_declaredTokens ht
  exact Prod.Lex.left _ _ (unvisited_lt hv hp)

/-- Observation does not change the expansion of tokens. -/
lemma watchTokens_snd (table : Json.Members) (depth : Nat) (path : List String) (memo : Memo)
    (out : Tokens) : ∀ tokens,
    (watchTokens table depth path memo out tokens).2 = expandTokens table path memo out tokens
  | [] => by rw [watchTokens, expandTokens]
  | t :: ts => by
    rw [watchTokens, expandTokens]
    cases ht : referencedGroup? t with
    | none => exact watchTokens_snd table depth path memo (out.insert t) ts
    | some name =>
      have ih := watchGroup_snd table (depth + 1) path memo name
      rcases hw : watchGroup table (depth + 1) path memo name with ⟨moments, e | expanded, memo'⟩
      · rw [hw] at ih
        simp only [hw, ← ih]
      · rw [hw] at ih
        simp only [hw, ← ih]
        exact watchTokens_snd table depth path memo' (out.union expanded) ts
termination_by tokens => (unvisited Prod.fst table path, tokens.length + 1)

end

/-! ### Calls and what is recorded -/

/-- A call of the expansion, of a group or of the rest of its tokens, at a depth of nested calls. -/
inductive Call where
  | group (depth : Nat) (path : List String) (memo : Memo) (name : String)
  | tokens (depth : Nat) (path : List String) (memo : Memo) (out : Tokens) (tokens : List String)

namespace Call

/--
The moments that a call of the expansion meets: a group is called, its name is put on the path, and
the calls that are made for its tokens meet their own.
-/
inductive Meets (table : Json.Members) : Call → Moment → Prop
  | called {depth : Nat} {path : List String} {memo : Memo} {name : String} :
      Meets table (.group depth path memo name) ⟨depth, path⟩
  | pushed {depth : Nat} {path : List String} {memo : Memo} {name : String}
      {tokens : List String} (hnew : memo.lookup name = none) (hp : name ∉ path)
      (ht : declaredTokens table name = .ok tokens) :
      Meets table (.group depth path memo name) ⟨depth, path ++ [name]⟩
  | inside {depth : Nat} {path : List String} {memo : Memo} {name : String}
      {tokens : List String} {m : Moment} (hnew : memo.lookup name = none) (hp : name ∉ path)
      (ht : declaredTokens table name = .ok tokens)
      (h : Meets table (.tokens depth (path ++ [name]) memo .empty tokens) m) :
      Meets table (.group depth path memo name) m
  | token {depth : Nat} {path : List String} {memo : Memo} {out : Tokens} {t : String}
      {ts : List String} {m : Moment} (ht : referencedGroup? t = none)
      (h : Meets table (.tokens depth path memo (out.insert t) ts) m) :
      Meets table (.tokens depth path memo out (t :: ts)) m
  | reference {depth : Nat} {path : List String} {memo : Memo} {out : Tokens} {t : String}
      {ts : List String} {name : String} {m : Moment} (ht : referencedGroup? t = some name)
      (h : Meets table (.group (depth + 1) path memo name) m) :
      Meets table (.tokens depth path memo out (t :: ts)) m
  | rest {depth : Nat} {path : List String} {memo memo' : Memo} {out expanded : Tokens}
      {t : String} {ts : List String} {name : String} {m : Moment}
      (ht : referencedGroup? t = some name)
      (hgo : expandGroup table path memo name = (.ok expanded, memo'))
      (h : Meets table (.tokens depth path memo' (out.union expanded) ts) m) :
      Meets table (.tokens depth path memo out (t :: ts)) m

/-- What is recorded of a call. -/
def recorded (table : Json.Members) : Call → List Moment
  | .group depth path memo name => (watchGroup table depth path memo name).1
  | .tokens depth path memo out ts => (watchTokens table depth path memo out ts).1

variable {table : Json.Members} {m : Moment}

mutual

lemma meets_of_mem_watchGroup {depth : Nat} {path : List String} {memo : Memo} {name : String}
    (h : m ∈ (watchGroup table depth path memo name).1) :
    Meets table (.group depth path memo name) m := by
  rw [watchGroup_eq] at h
  cases hnew : memo.lookup name with
  | some done =>
    rw [hnew] at h
    rw [List.mem_singleton.1 h]
    exact .called
  | none =>
    simp only [hnew] at h
    by_cases hp : name ∈ path
    · rw [if_pos hp] at h
      rw [List.mem_singleton.1 h]
      exact .called
    · rw [if_neg hp] at h
      cases ht : declaredTokens table name with
      | error e =>
        rw [ht] at h
        rw [List.mem_singleton.1 h]
        exact .called
      | ok tokens =>
        have hrecorded : m = ⟨depth, path⟩ ∨ m = ⟨depth, path ++ [name]⟩ ∨
            m ∈ (watchTokens table depth (path ++ [name]) memo .empty tokens).1 := by
          rw [ht] at h
          rcases hw : watchTokens table depth (path ++ [name]) memo .empty tokens
            with ⟨moments, e | out, memo'⟩ <;> simpa [hw] using h
        rcases hrecorded with rfl | rfl | hinside
        · exact .called
        · exact .pushed hnew hp ht
        · exact .inside hnew hp ht (meets_of_mem_watchTokens hinside)
termination_by (unvisited Prod.fst table path, 0)
decreasing_by
  obtain ⟨v, hv⟩ := mem_of_declaredTokens ht
  exact Prod.Lex.left _ _ (unvisited_lt hv hp)

lemma meets_of_mem_watchTokens {depth : Nat} {path : List String} {memo : Memo} {out : Tokens}
    {ts : List String} (h : m ∈ (watchTokens table depth path memo out ts).1) :
    Meets table (.tokens depth path memo out ts) m := by
  match ts with
  | [] =>
    rw [watchTokens] at h
    cases h
  | t :: ts =>
    rw [watchTokens] at h
    cases ht : referencedGroup? t with
    | none =>
      rw [ht] at h
      exact .token ht (meets_of_mem_watchTokens h)
    | some name =>
      have hgo := watchGroup_snd table (depth + 1) path memo name
      rcases hw : watchGroup table (depth + 1) path memo name with ⟨moments, e | expanded, memo'⟩
      · have hgroup : m ∈ (watchGroup table (depth + 1) path memo name).1 := by
          simpa only [ht, hw] using h
        exact .reference ht (meets_of_mem_watchGroup hgroup)
      · rw [hw] at hgo
        simp only [ht, hw, List.mem_append] at h
        rcases h with h | h
        · have hgroup : m ∈ (watchGroup table (depth + 1) path memo name).1 := by
            rwa [hw]
          exact .reference ht (meets_of_mem_watchGroup hgroup)
        · exact .rest ht hgo.symm (meets_of_mem_watchTokens h)
termination_by (unvisited Prod.fst table path, ts.length + 1)

end

/--
Recorded are just the moments that the calls of the expansion meet: every call, and every name that
is put on the path.
-/
theorem mem_recorded_iff {c : Call} : m ∈ c.recorded table ↔ c.Meets table m := by
  constructor
  · intro h
    cases c with
    | group depth path memo name => exact meets_of_mem_watchGroup h
    | tokens depth path memo out ts => exact meets_of_mem_watchTokens h
  · intro h
    induction h with
    | @called depth path memo name =>
      rw [recorded, watchGroup_eq]
      split
      · exact List.mem_singleton_self _
      · split_ifs
        · exact List.mem_singleton_self _
        · split
          · exact List.mem_singleton_self _
          · split <;> exact List.mem_cons_self
    | pushed hnew hp ht =>
      rw [recorded, watchGroup_eq]
      simp only [hnew, if_neg hp, ht]
      split <;> simp
    | inside hnew hp ht _ ih =>
      rw [recorded, watchGroup_eq]
      rw [recorded] at ih
      simp only [hnew, if_neg hp, ht]
      split <;> simp_all
    | token ht _ ih =>
      rw [recorded, watchTokens, ht]
      exact ih
    | reference ht _ ih =>
      rw [recorded] at ih
      rw [recorded, watchTokens, ht]
      dsimp only
      split
      · simp_all
      · simp_all
    | @rest depth path memo memo' out expanded t ts name m ht hgo _ ih =>
      rw [recorded] at ih
      rw [← watchGroup_snd table (depth + 1)] at hgo
      rw [recorded, watchTokens, ht]
      dsimp only
      split
      · simp_all
      · simp_all

/-- Whether the names on the path are distinct groups, and there is one for each call above. -/
def Grounded (table : Json.Members) : Call → Prop
  | .group depth path _ _ =>
    path.Nodup ∧ (∀ g ∈ path, DeclaresTokens table g) ∧ depth = path.length + 1
  | .tokens depth path _ _ _ =>
    path.Nodup ∧ (∀ g ∈ path, DeclaresTokens table g) ∧ depth = path.length

lemma Grounded.push {depth : Nat} {path : List String} {memo : Memo} {name : String}
    {tokens : List String} (h : (Call.group depth path memo name).Grounded table)
    (hname : name ∉ path) (ht : declaredTokens table name = .ok tokens) :
    (Call.tokens depth (path ++ [name]) memo .empty tokens).Grounded table := by
  obtain ⟨hp, hd, rfl⟩ := h
  refine ⟨by simpa using List.Nodup.concat hname hp, ?_, by simp⟩
  exact List.forall_mem_append.2 ⟨hd, by simpa using declaresTokens_iff.2 ⟨tokens, ht⟩⟩

/-- From a grounded call on, all moments stay within the bounds. -/
theorem Meets.bounded {c : Call} (h : c.Meets table m) (hc : c.Grounded table) :
    m.Bounded table := by
  induction h with
  | called =>
    obtain ⟨hp, hd, rfl⟩ := hc
    exact ⟨hp, hd, by simpa using length_le_groupNames hp hd⟩
  | pushed _ hname ht =>
    obtain ⟨hp, hd, rfl⟩ := hc.push hname ht
    exact ⟨hp, hd, Nat.le_succ_of_le (length_le_groupNames hp hd)⟩
  | inside _ hname ht _ ih => exact ih (hc.push hname ht)
  | token ht _ ih => exact ih hc
  | reference ht _ ih =>
    obtain ⟨hp, hd, rfl⟩ := hc
    exact ih ⟨hp, hd, rfl⟩
  | rest ht hgo _ ih => exact ih hc

end Call

/-! ### Queries -/

namespace Resolver

/-- Expand a value under observation. -/
def watchValue (r : Resolver) (v : Json) : List Moment × Except GroupError Tokens × Memo :=
  match v.flatten with
  | .error e => ([], .error e, r.memo)
  | .ok tokens =>
    match soleReference? tokens with
    | some name => watchGroup r.table 1 [] r.memo name
    | none => watchTokens r.table 0 [] r.memo .empty tokens

/-- Reply to a query under observation. -/
def watch (r : Resolver) : Query → List Moment × Except GroupError Reply × Resolver
  | .group name =>
    let (moments, answer, memo) := watchGroup r.table 1 [] r.memo name
    (moments, answer.map .tokens, { r with memo })
  | .expand v =>
    let (moments, answer, memo) := r.watchValue v
    (moments, answer.map .tokens, { r with memo })
  | .resolve v =>
    let (moments, answer, memo) := r.watchValue v
    (moments, (answer.map Selection.ofTokens).map .selection, { r with memo })

lemma watchValue_snd (r : Resolver) (v : Json) :
    (r.watchValue v).2 = ((r.expand v).1, (r.expand v).2.memo) := by
  rw [watchValue, expand]
  cases v.flatten with
  | error e => rfl
  | ok tokens =>
    cases hsole : soleReference? tokens with
    | some name =>
      simp only [hsole]
      exact watchGroup_snd r.table 1 [] r.memo name
    | none =>
      simp only [hsole]
      exact watchTokens_snd r.table 0 [] r.memo .empty tokens

lemma table_expand (r : Resolver) (v : Json) : (r.expand v).2.table = r.table := by
  rw [expand]
  cases v.flatten with
  | error e => rfl
  | ok tokens => cases hsole : soleReference? tokens <;> simp only [hsole, group]

/-- Observation does not change the reply, nor what is remembered. -/
lemma watch_snd (r : Resolver) (q : Query) : (r.watch q).2 = r.ask q := by
  cases q with
  | group name =>
    have h := watchGroup_snd r.table 1 [] r.memo name
    rw [watch, ask, group, ← h]
  | expand v =>
    have h := r.watchValue_snd v
    rw [watch, ask]
    simp only [h, ← r.table_expand v]
  | resolve v =>
    have h := r.watchValue_snd v
    rw [watch, ask, resolve]
    simp only [h, ← r.table_expand v]

/-- The call that the expansion of a value begins with, unless the value is malformed. -/
def valueCall? (r : Resolver) (v : Json) : Option Call :=
  match v.flatten with
  | .error _ => none
  | .ok tokens =>
    match soleReference? tokens with
    | some name => some (.group 1 [] r.memo name)
    | none => some (.tokens 0 [] r.memo .empty tokens)

/-- The call that a query begins with. -/
def call? (r : Resolver) : Query → Option Call
  | .group name => some (.group 1 [] r.memo name)
  | .expand v | .resolve v => r.valueCall? v

lemma watchValue_fst (r : Resolver) (v : Json) :
    (r.watchValue v).1 = (r.valueCall? v).elim [] (Call.recorded r.table) := by
  rw [watchValue, valueCall?]
  cases v.flatten with
  | error e => rfl
  | ok tokens => cases hsole : soleReference? tokens <;> simp only [hsole] <;> rfl

lemma watch_fst (r : Resolver) (q : Query) :
    (r.watch q).1 = (r.call? q).elim [] (Call.recorded r.table) := by
  cases q with
  | group name => rfl
  | expand v => exact r.watchValue_fst v
  | resolve v => exact r.watchValue_fst v

/-- The moments of a query are just those that its calls meet. -/
theorem mem_watch_iff (r : Resolver) (q : Query) {m : Moment} :
    m ∈ (r.watch q).1 ↔ ∃ c, r.call? q = some c ∧ c.Meets r.table m := by
  rw [watch_fst]
  cases r.call? q with
  | none => simp
  | some c => simpa using Call.mem_recorded_iff

lemma grounded_valueCall? {r : Resolver} {v : Json} {c : Call} (h : r.valueCall? v = some c) :
    c.Grounded r.table := by
  rw [valueCall?] at h
  split at h
  · cases h
  · split at h <;> cases h <;> exact ⟨List.nodup_nil, by simp, rfl⟩

lemma grounded_call? {r : Resolver} {q : Query} {c : Call} (h : r.call? q = some c) :
    c.Grounded r.table := by
  cases q with
  | group name =>
    cases h
    exact ⟨List.nodup_nil, by simp, rfl⟩
  | expand v => exact grounded_valueCall? h
  | resolve v => exact grounded_valueCall? h

lemma bounded_watch (r : Resolver) (q : Query) : ∀ m ∈ (r.watch q).1, m.Bounded r.table := by
  intro m hm
  obtain ⟨c, hc, hmeets⟩ := (r.mem_watch_iff q).1 hm
  exact hmeets.bounded (grounded_call? hc)

/--
Every query ends, with the names on its path distinct groups at every moment and calls nested at
most once more than there are groups. If it fails on a cycle, the cycle is one of references and the
query leads to it; if it fails on a group that is not declared, the query leads to this group.
-/
theorem nested_and_genuine (table : Json.Members) (history : List Query) (q : Query) :
    (((ofTable table).after history).watch q).2 = ((ofTable table).after history).ask q ∧
      (∀ m ∈ (((ofTable table).after history).watch q).1,
        m.path.Nodup ∧ (∀ g ∈ m.path, DeclaresTokens table g) ∧
          m.depth ≤ (groupNames table).length + 1) ∧
      (∀ name cycle,
        (((ofTable table).after history).ask q).1 = .error (.circular name cycle) →
          LeadsTo table q.names name ∧ Closes table name cycle) ∧
      ∀ name, (((ofTable table).after history).ask q).1 = .error (.unknown name) →
        LeadsTo table q.names name ∧ table.get? name = none := by
  have hserves := serves_after table history
  have hfails : ∀ e, (((ofTable table).after history).ask q).1 = .error e →
      (∃ o, e = .notALeaf o) ∨ e.Genuine table (LeadsTo table q.names) := by
    intro e h
    rw [(hserves.ask q).1] at h
    exact genuine_unrollQuery h
  refine ⟨watch_snd _ q, fun m hm => ?_, fun name cycle h => ?_, fun name h => ?_⟩
  · have hm := bounded_watch _ q m hm
    rw [hserves.1] at hm
    exact ⟨hm.nodup, hm.declared, hm.depth_le⟩
  · exact (hfails _ h).resolve_left (by simp)
  · exact (hfails _ h).resolve_left (by simp)

/-- A group that leads into a cycle of two others. -/
def tailed : Json.Members :=
  [("a", .arr [.str "x", .str "@b"]), ("b", .arr [.str "@x", .str "@c"]),
    ("c", .str "@b"), ("x", .arr [])]

theorem nested_and_genuine_tailed :
    (((ofTable tailed).after [.group "x"]).ask (.resolve (.str "@a"))).1 =
        .error (.circular "b" ["b", "c", "b"]) ∧
      LeadsTo tailed ["a"] "b" ∧ Closes tailed "b" ["b", "c", "b"] := by
  have h : (((ofTable tailed).after [.group "x"]).ask (.resolve (.str "@a"))).1 =
      .error (.circular "b" ["b", "c", "b"]) := by cbv
  obtain ⟨hleads, hcloses⟩ :=
    (nested_and_genuine tailed [.group "x"] (.resolve (.str "@a"))).2.2.1 _ _ h
  exact ⟨h, hleads, hcloses⟩

end Resolver

end Disclosure
