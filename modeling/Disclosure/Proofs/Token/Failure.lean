import Disclosure.Proofs.Search.Cycle
import Disclosure.Proofs.Token.Query

/-!
# Failed expansions

A group refers to the groups whose references are among its tokens (`Refers`). An expansion only
fails for a reason that lies in the table: the error of a query names a group that the query leads
to and that is not declared or no list, or a cycle of references (`genuine_unrollQuery`).

The proof follows the expansion. The names on its path are distinct, and each refers to the next,
so a name that is met again closes a cycle.
-/

namespace Disclosure

open Relation (ReflTransGen TransGen)

/-! ### Values without objects -/

/-- Whether an object stands somewhere in a value, at any depth of lists. -/
inductive Json.HoldsObject : Json → Prop
  | obj (members : Json.Members) : HoldsObject (.obj members)
  | arr {items : List Json} {v : Json} (hv : v ∈ items) (h : HoldsObject v) :
      HoldsObject (.arr items)

namespace Json

lemma holdsObject_arr {items : List Json} :
    (arr items).HoldsObject ↔ ∃ v ∈ items, v.HoldsObject := by
  constructor
  · intro h
    cases h with
    | arr hv h => exact ⟨_, hv, h⟩
  · rintro ⟨v, hv, h⟩
    exact .arr hv h

mutual

lemma object_leaves_eq_none_iff : ∀ v : Json, v.leaves.object = none ↔ ¬ v.HoldsObject
  | .null | .bool _ | .num _ | .str _ => by
    simp only [leaves, true_iff]
    rintro ⟨⟩
  | .arr items => by
    rw [leaves, object_itemsLeaves_eq_none_iff items, holdsObject_arr]
    simp
  | .obj members => by simpa [leaves] using HoldsObject.obj members

lemma object_itemsLeaves_eq_none_iff : ∀ items : List Json,
    (itemsLeaves items).object = none ↔ ∀ v ∈ items, ¬ v.HoldsObject
  | [] => by simp [itemsLeaves]
  | v :: vs => by
    have hv := object_leaves_eq_none_iff v
    rw [itemsLeaves, List.forall_mem_cons, ← hv, ← object_itemsLeaves_eq_none_iff vs]
    rcases v.leaves with ⟨names, _ | o⟩ <;> simp

end

lemma flatten_eq_ok_iff {v : Json} {tokens : List String} :
    v.flatten = .ok tokens ↔ v.leaves = ⟨tokens, none⟩ := by
  rw [flatten]
  rcases v.leaves with ⟨names, _ | o⟩ <;> simp

lemma exists_flatten_iff {v : Json} : (∃ tokens, v.flatten = .ok tokens) ↔ ¬ v.HoldsObject := by
  rw [← object_leaves_eq_none_iff]
  simp only [flatten_eq_ok_iff]
  rcases v.leaves with ⟨names, _ | o⟩ <;> simp

end Json

/-! ### References -/

/-- The names of the groups that tokens refer to. -/
def references (tokens : List String) : List String :=
  tokens.filterMap referencedGroup?

/-- The names of the groups that a value refers to. -/
def Json.references (v : Json) : List String :=
  Disclosure.references v.leaves.names

lemma Json.references_eq {v : Json} {tokens : List String} (h : v.flatten = .ok tokens) :
    v.references = Disclosure.references tokens := by
  rw [Json.references, Json.flatten_eq_ok_iff.1 h]

/-- Whether a reference to the group `h` is among the tokens that the group `g` is declared with. -/
def Refers (table : Json.Members) (g h : String) : Prop :=
  ∃ tokens, declaredTokens table g = .ok tokens ∧ h ∈ references tokens

/-- Whether a group can be reached from some names by following references. -/
def LeadsTo (table : Json.Members) (names : List String) (g : String) : Prop :=
  ∃ name ∈ names, ReflTransGen (Refers table) name g

/-- Whether a group is declared, is no object, and holds none. -/
def DeclaresTokens (table : Json.Members) (g : String) : Prop :=
  ∃ v, table.get? g = some v ∧ v.isObject = false ∧ ¬ v.HoldsObject

variable {table : Json.Members} {path : List String} {name : String}

lemma references_cons_of_none {t : String} (ht : referencedGroup? t = none) (ts : List String) :
    references (t :: ts) = references ts :=
  List.filterMap_cons_none ht

lemma references_cons_of_some {t : String} (ht : referencedGroup? t = some name)
    (ts : List String) : references (t :: ts) = name :: references ts :=
  List.filterMap_cons_some ht

lemma LeadsTo.of_refers {tokens : List String} {g : String}
    (ht : declaredTokens table name = .ok tokens) (h : LeadsTo table (references tokens) g) :
    TransGen (Refers table) name g := by
  obtain ⟨inner, hinner, hreach⟩ := h
  exact .head' ⟨tokens, ht, hinner⟩ hreach

lemma declaresTokens_iff {g : String} :
    DeclaresTokens table g ↔ ∃ tokens, declaredTokens table g = .ok tokens := by
  rw [DeclaresTokens, declaredTokens]
  cases table.get? g with
  | none => simp
  | some v => cases hobj : v.isObject <;> simp [hobj, Json.exists_flatten_iff]

/-! ### Cycles -/

/--
Whether a list is a cycle that a name closes: the name stands first and last, no other name repeats,
and every name refers to the next.
-/
def Closes (table : Json.Members) (name : String) (cycle : List String) : Prop :=
  ∃ inner, cycle = name :: (inner ++ [name]) ∧ (name :: inner).Nodup ∧
    cycle.IsChain (Refers table)

/-- A name that stands on a path of references and is referred to from its end closes a cycle. -/
lemma closes_cycleAt (hp : path.Nodup) (hchain : (path ++ [name]).IsChain (Refers table))
    (hname : name ∈ path) : Closes table name (cycleAt path name) :=
  isCycle_cycleAt hp hchain hname

lemma Closes.transGen {cycle : List String} (h : Closes table name cycle) :
    TransGen (Refers table) name name := by
  obtain ⟨inner, rfl, -, hchain⟩ := h
  cases inner with
  | nil => exact .single (List.isChain_pair.1 hchain)
  | cons b inner =>
    obtain ⟨hb, hrest⟩ := List.isChain_cons.1 hchain
    have hback : ReflTransGen (Refers table) b name :=
      List.relationReflTransGen_of_exists_isChain_cons (inner ++ [name]) hrest (by simp)
    exact .head' (hb b rfl) hback

/-! ### Errors -/

/--
Whether an error is due to the table: it names a group that is at fault, and that the expansion
reaches.
-/
def GroupError.Genuine (table : Json.Members) (reached : String → Prop) : GroupError → Prop
  | .unknown name => reached name ∧ table.get? name = none
  | .circular name cycle => reached name ∧ Closes table name cycle
  | .notASequence name => reached name ∧ ∃ v, table.get? name = some v ∧ v.isObject
  | .notALeaf o => ∃ name, reached name ∧
      ∃ v, table.get? name = some v ∧ v.flatten = .error (.notALeaf o)

lemma GroupError.Genuine.mono {e : GroupError} {reached reached' : String → Prop}
    (h : e.Genuine table reached) (hsub : ∀ g, reached g → reached' g) :
    e.Genuine table reached' := by
  cases e with
  | notALeaf o =>
    obtain ⟨g, hg, hv⟩ := h
    exact ⟨g, hsub g hg, hv⟩
  | _ => exact ⟨hsub _ h.1, h.2⟩

lemma flatten_error {v : Json} {e : GroupError} (h : v.flatten = .error e) :
    ∃ o, e = .notALeaf o := by
  rw [Json.flatten] at h
  split at h
  · exact ⟨_, (Except.error.inj h).symm⟩
  · cases h

lemma genuine_declaredTokens {e : GroupError} (h : declaredTokens table name = .error e) :
    e.Genuine table (· = name) := by
  rw [declaredTokens] at h
  split at h
  · next hv =>
    cases h
    exact ⟨rfl, hv⟩
  · next v hv =>
    split_ifs at h with hobj
    · cases h
      exact ⟨rfl, v, hv, hobj⟩
    · obtain ⟨o, rfl⟩ := flatten_error h
      exact ⟨name, rfl, v, hv, h⟩

mutual

/-- On a path of references, a group fails for a reason that it reaches. -/
lemma genuine_unrollGroup {table : Json.Members} {path : List String} {name : String}
    {e : GroupError} (hp : path.Nodup)
    (hchain : (path ++ [name]).IsChain (Refers table))
    (h : unrollGroup table path name = .error e) :
    e.Genuine table (ReflTransGen (Refers table) name) := by
  rw [unrollGroup_eq] at h
  by_cases hname : name ∈ path
  · rw [if_pos hname] at h
    cases h
    exact ⟨.refl, closes_cycleAt hp hchain hname⟩
  · rw [if_neg hname] at h
    cases ht : declaredTokens table name with
    | error e' =>
      rw [ht] at h
      cases h
      exact (genuine_declaredTokens ht).mono fun g hg => hg ▸ .refl
    | ok tokens =>
      rw [ht] at h
      have hp' : (path ++ [name]).Nodup := by
        simpa using List.Nodup.concat hname hp
      have hchain' : ∀ inner ∈ references tokens,
          (path ++ [name] ++ [inner]).IsChain (Refers table) := by
        intro inner hinner
        refine hchain.append (by simp) ?_
        simpa using ⟨tokens, ht, hinner⟩
      exact (genuine_unrollTokens hp' hchain' h).mono fun g hg => (hg.of_refers ht).to_reflTransGen
termination_by (unvisited Prod.fst table path, 0)
decreasing_by
  obtain ⟨v, hv⟩ := mem_of_declaredTokens ht
  exact Prod.Lex.left _ _ (unvisited_lt hv hname)

/-- Tokens fail for a reason that one of their references reaches. -/
lemma genuine_unrollTokens {table : Json.Members} {path : List String} {e : GroupError}
    {out : Tokens} {tokens : List String} (hp : path.Nodup)
    (hchain : ∀ inner ∈ references tokens, (path ++ [inner]).IsChain (Refers table))
    (h : unrollTokens table path out tokens = .error e) :
    e.Genuine table (LeadsTo table (references tokens)) := by
  match tokens with
  | [] =>
    rw [unrollTokens] at h
    cases h
  | t :: ts =>
    rw [unrollTokens] at h
    cases ht : referencedGroup? t with
    | none =>
      rw [references_cons_of_none ht] at hchain ⊢
      rw [ht] at h
      exact genuine_unrollTokens hp hchain h
    | some inner =>
      rw [references_cons_of_some ht] at hchain ⊢
      rw [ht] at h
      obtain ⟨hinner, hrest⟩ := List.forall_mem_cons.1 hchain
      cases hr : unrollGroup table path inner with
      | error e' =>
        simp only [hr] at h
        cases h
        exact (genuine_unrollGroup hp hinner hr).mono
          fun g hg => ⟨inner, List.mem_cons_self, hg⟩
      | ok expanded =>
        simp only [hr] at h
        exact (genuine_unrollTokens hp hrest h).mono
          fun g ⟨n, hn, hg⟩ => ⟨n, List.mem_cons_of_mem _ hn, hg⟩
termination_by (unvisited Prod.fst table path, tokens.length + 1)

end

/-! ### Queries -/

lemma soleReference?_eq_some {tokens : List String} (h : soleReference? tokens = some name) :
    ∃ t, tokens = [t] ∧ referencedGroup? t = some name := by
  cases tokens with
  | nil => cases h
  | cons t ts =>
    cases ts with
    | nil => exact ⟨t, rfl, h⟩
    | cons _ _ => cases h

/-- A value fails because it holds an object, or for a reason that one of its references reaches. -/
lemma genuine_unrollValue {v : Json} {e : GroupError} (h : unrollValue table v = .error e) :
    (∃ o, e = .notALeaf o) ∧ v.HoldsObject ∨ e.Genuine table (LeadsTo table v.references) := by
  rw [unrollValue] at h
  cases hv : v.flatten with
  | error e' =>
    rw [hv] at h
    cases h
    refine .inl ⟨flatten_error hv, ?_⟩
    by_contra hobj
    obtain ⟨tokens, htokens⟩ := Json.exists_flatten_iff.2 hobj
    rw [hv] at htokens
    cases htokens
  | ok tokens =>
    rw [hv] at h
    rw [Json.references_eq hv]
    right
    cases hsole : soleReference? tokens with
    | some name =>
      simp only [hsole] at h
      obtain ⟨t, rfl, ht⟩ := soleReference?_eq_some hsole
      rw [references_cons_of_some ht]
      exact (genuine_unrollGroup List.nodup_nil (List.isChain_singleton name) h).mono
        fun g hg => ⟨name, List.mem_singleton_self name, hg⟩
    | none =>
      simp only [hsole] at h
      exact genuine_unrollTokens List.nodup_nil (fun inner _ => List.isChain_singleton inner) h

/-- The names that a query starts from. -/
def Query.names : Query → List String
  | .group name => [name]
  | .expand v => v.references
  | .resolve v => v.references

lemma Except.map_eq_error_iff {ε α β : Type} {f : α → β} {x : Except ε α} {e : ε} :
    x.map f = .error e ↔ x = .error e := by
  cases x <;> simp [Except.map]

/-- An error that is about groups has its reason in the groups that the query leads to. -/
lemma genuine_unrollQuery {q : Query} {e : GroupError} (h : unrollQuery table q = .error e) :
    (∃ o, e = .notALeaf o) ∨ e.Genuine table (LeadsTo table q.names) := by
  cases q with
  | group name =>
    rw [unrollQuery, Except.map_eq_error_iff] at h
    right
    exact (genuine_unrollGroup List.nodup_nil (List.isChain_singleton name) h).mono
      fun g hg => ⟨name, List.mem_singleton_self name, hg⟩
  | expand v =>
    rw [unrollQuery, Except.map_eq_error_iff] at h
    exact (genuine_unrollValue h).imp_left And.left
  | resolve v =>
    rw [unrollQuery, Except.map_eq_error_iff] at h
    exact (genuine_unrollValue h).imp_left And.left

end Disclosure
