import Mathlib
import Disclosure.Proofs.Token.Failure
import Disclosure.Proofs.Token.Sequence

/-!
# Full expansions

The full expansion of tokens replaces every reference by the expansion of its group, from left to
right, with nothing remembered and nothing left out (`Unfolds`). Tokens have a full expansion
exactly if every group that they lead to is declared as a list of tokens and lies on no cycle of
references; what a resolver answers are then the distinct leaves, in the order of their first
occurrence (`expand_eq_leaves`).
-/

namespace Disclosure

open Relation (ReflTransGen TransGen)

/-! ### Leaves -/

/-- The leaves of the full expansion of tokens. -/
inductive Unfolds (table : Json.Members) : List String → List String → Prop
  | nil : Unfolds table [] []
  | leaf {t : String} {ts leaves : List String} (ht : referencedGroup? t = none)
      (rest : Unfolds table ts leaves) : Unfolds table (t :: ts) (t :: leaves)
  | group {t name : String} {tokens ts inner leaves : List String}
      (ht : referencedGroup? t = some name) (htokens : declaredTokens table name = .ok tokens)
      (expansion : Unfolds table tokens inner) (rest : Unfolds table ts leaves) :
      Unfolds table (t :: ts) (inner ++ leaves)

/-- The leaves of the full expansion of a value. -/
def Json.Unfolds (table : Json.Members) (v : Json) (leaves : List String) : Prop :=
  ∃ tokens, v.flatten = .ok tokens ∧ Disclosure.Unfolds table tokens leaves

variable {table : Json.Members} {path tokens leaves : List String} {name : String}

namespace Unfolds

/-- There is only one full expansion. -/
lemma unique {leaves' : List String} (h : Unfolds table tokens leaves)
    (h' : Unfolds table tokens leaves') : leaves = leaves' := by
  induction h generalizing leaves' with
  | nil =>
    cases h'
    rfl
  | leaf ht _ ih =>
    cases h' with
    | leaf _ rest => rw [ih rest]
    | group ht' _ _ _ =>
      rw [ht] at ht'
      cases ht'
  | group ht htokens _ _ ihexp ihrest =>
    cases h' with
    | leaf ht' _ =>
      rw [ht] at ht'
      cases ht'
    | group ht' htokens' exp' rest' =>
      rw [ht] at ht'
      cases ht'
      rw [htokens] at htokens'
      cases htokens'
      rw [ihexp exp', ihrest rest']

/-- References are no leaves. -/
lemma not_reference (h : Unfolds table tokens leaves) :
    ∀ t ∈ leaves, referencedGroup? t = none := by
  induction h with
  | nil => simp
  | leaf ht _ ih => exact List.forall_mem_cons.2 ⟨ht, ih⟩
  | group _ _ _ _ ihexp ihrest => exact List.forall_mem_append.2 ⟨ihexp, ihrest⟩

/--
All groups on the way are declared and on no cycle: what a reference leads to is the group itself,
or what the tokens of the group lead to. A cycle through the group would pass through these tokens.
-/
lemma leadsTo (h : Unfolds table tokens leaves) {g : String}
    (hg : LeadsTo table (references tokens) g) :
    DeclaresTokens table g ∧ ¬ TransGen (Refers table) g g := by
  induction h generalizing g with
  | nil =>
    obtain ⟨n, hn, -⟩ := hg
    cases hn
  | leaf ht _ ih =>
    rw [references_cons_of_none ht] at hg
    exact ih hg
  | @group t name tokens ts _ _ ht htokens _ _ ihexp ihrest =>
    rw [references_cons_of_some ht] at hg
    obtain ⟨n, hn, hreach⟩ := hg
    have hbelow : ∀ g, TransGen (Refers table) name g → LeadsTo table (references tokens) g := by
      intro g hg
      obtain ⟨inner, ⟨tokens', htokens', hinner⟩, hinnerg⟩ := TransGen.head'_iff.1 hg
      rw [htokens] at htokens'
      cases htokens'
      exact ⟨inner, hinner, hinnerg⟩
    rcases List.mem_cons.1 hn with rfl | hn
    · rcases Relation.reflTransGen_iff_eq_or_transGen.1 hreach with rfl | hreach
      · refine ⟨declaresTokens_iff.2 ⟨tokens, htokens⟩, fun hcycle => ?_⟩
        exact (ihexp (hbelow _ hcycle)).2 hcycle
      · exact ihexp (hbelow g hreach)
    · exact ihrest ⟨n, hn, hreach⟩

end Unfolds

/-! ### Expansions that succeed -/

mutual

/-- A group that can be expanded has the distinct leaves of its tokens. -/
lemma unfolds_unrollGroup {table : Json.Members} {path : List String} {name : String}
    {out : Tokens} (h : unrollGroup table path name = .ok out) :
    ∃ tokens leaves, declaredTokens table name = .ok tokens ∧ Unfolds table tokens leaves ∧
      out = .ofList leaves := by
  rw [unrollGroup_eq] at h
  by_cases hname : name ∈ path
  · rw [if_pos hname] at h
    cases h
  · rw [if_neg hname] at h
    cases ht : declaredTokens table name with
    | error e =>
      rw [ht] at h
      cases h
    | ok tokens =>
      rw [ht] at h
      obtain ⟨leaves, hleaves, hout⟩ := unfolds_unrollTokens h
      exact ⟨tokens, leaves, rfl, hleaves, hout⟩
termination_by (unvisited Prod.fst table path, 0)
decreasing_by
  obtain ⟨v, hv⟩ := mem_of_declaredTokens ht
  exact Prod.Lex.left _ _ (unvisited_lt hv hname)

/-- Tokens that can be expanded append their leaves. -/
lemma unfolds_unrollTokens {table : Json.Members} {path : List String} {start out : Tokens}
    {tokens : List String} (h : unrollTokens table path start tokens = .ok out) :
    ∃ leaves, Unfolds table tokens leaves ∧ out = start.insertMany leaves := by
  match tokens with
  | [] =>
    rw [unrollTokens] at h
    cases h
    exact ⟨[], .nil, rfl⟩
  | t :: ts =>
    rw [unrollTokens] at h
    cases ht : referencedGroup? t with
    | none =>
      rw [ht] at h
      obtain ⟨leaves, hleaves, rfl⟩ := unfolds_unrollTokens h
      exact ⟨t :: leaves, .leaf ht hleaves, rfl⟩
    | some name =>
      rw [ht] at h
      cases hr : unrollGroup table path name with
      | error e =>
        simp only [hr] at h
        cases h
      | ok expanded =>
        simp only [hr] at h
        obtain ⟨tokens, inner, htokens, hinner, rfl⟩ := unfolds_unrollGroup hr
        obtain ⟨leaves, hleaves, rfl⟩ := unfolds_unrollTokens h
        refine ⟨inner ++ leaves, .group ht htokens hinner hleaves, ?_⟩
        rw [Tokens.union_ofList, Tokens.insertMany_append]
termination_by (unvisited Prod.fst table path, tokens.length + 1)

end

/-- A value that can be expanded has the distinct leaves of its tokens. -/
lemma unfolds_unrollValue {v : Json} {out : Tokens} (h : unrollValue table v = .ok out) :
    ∃ leaves, v.Unfolds table leaves ∧ out = .ofList leaves := by
  rw [unrollValue] at h
  cases hv : v.flatten with
  | error e =>
    rw [hv] at h
    cases h
  | ok tokens =>
    rw [hv] at h
    cases hsole : soleReference? tokens with
    | none =>
      simp only [hsole] at h
      obtain ⟨leaves, hleaves, rfl⟩ := unfolds_unrollTokens h
      exact ⟨leaves, ⟨tokens, hv, hleaves⟩, rfl⟩
    | some name =>
      simp only [hsole] at h
      obtain ⟨inner, leaves, hinner, hleaves, rfl⟩ := unfolds_unrollGroup h
      obtain ⟨t, rfl, ht⟩ := soleReference?_eq_some hsole
      -- the group stands for its one reference, and nothing follows
      refine ⟨leaves ++ [], ⟨[t], hv, .group ht hinner hleaves .nil⟩, ?_⟩
      rw [List.append_nil]

/-! ### Values -/

/--
Whether the references of a value can be followed to the end: the value holds no object, and every
group that it leads to is declared as tokens and lies on no cycle.
-/
structure Resolvable (table : Json.Members) (v : Json) : Prop where
  flat : ¬ v.HoldsObject
  declared : ∀ g, LeadsTo table v.references g → DeclaresTokens table g
  acyclic : ∀ g, LeadsTo table v.references g → ¬ TransGen (Refers table) g g

lemma Json.Unfolds.resolvable {v : Json} (h : v.Unfolds table leaves) : Resolvable table v := by
  obtain ⟨tokens, hv, hleaves⟩ := h
  refine ⟨Json.exists_flatten_iff.1 ⟨tokens, hv⟩, fun g hg => ?_, fun g hg => ?_⟩
  · rw [Json.references_eq hv] at hg
    exact (hleaves.leadsTo hg).1
  · rw [Json.references_eq hv] at hg
    exact (hleaves.leadsTo hg).2

lemma Json.Unfolds.unique {v : Json} {leaves' : List String} (h : v.Unfolds table leaves)
    (h' : v.Unfolds table leaves') : leaves = leaves' := by
  obtain ⟨tokens, hv, hleaves⟩ := h
  obtain ⟨tokens', hv', hleaves'⟩ := h'
  rw [hv] at hv'
  cases hv'
  exact hleaves.unique hleaves'

/-- No group that a resolvable value leads to is at fault. -/
lemma Resolvable.not_genuine {v : Json} (h : Resolvable table v) (e : GroupError) :
    ¬ e.Genuine table (LeadsTo table v.references) := by
  intro hgen
  cases e with
  | unknown name =>
    obtain ⟨hlead, hnone⟩ := hgen
    obtain ⟨v, hv, -⟩ := h.declared name hlead
    rw [hnone] at hv
    cases hv
  | circular name cycle =>
    obtain ⟨hlead, hcycle⟩ := hgen
    exact h.acyclic name hlead hcycle.transGen
  | notASequence name =>
    obtain ⟨hlead, v, hv, hobj⟩ := hgen
    obtain ⟨v', hv', hobj', -⟩ := h.declared name hlead
    rw [hv] at hv'
    cases hv'
    rw [hobj] at hobj'
    cases hobj'
  | notALeaf o =>
    obtain ⟨name, hlead, v, hv, herror⟩ := hgen
    obtain ⟨v', hv', -, hflat⟩ := h.declared name hlead
    rw [hv] at hv'
    cases hv'
    obtain ⟨tokens, htokens⟩ := Json.exists_flatten_iff.2 hflat
    rw [herror] at htokens
    cases htokens

lemma Resolvable.exists_unrollValue {v : Json} (h : Resolvable table v) :
    ∃ out, unrollValue table v = .ok out := by
  cases hr : unrollValue table v with
  | ok out => exact ⟨out, rfl⟩
  | error e =>
    rcases genuine_unrollValue hr with ⟨-, hobj⟩ | hgen
    · exact absurd hobj h.flat
    · exact absurd hgen (h.not_genuine e)

lemma exists_unrollValue_iff {v : Json} :
    (∃ out, unrollValue table v = .ok out) ↔ Resolvable table v := by
  constructor
  · rintro ⟨out, hout⟩
    obtain ⟨leaves, hleaves, -⟩ := unfolds_unrollValue hout
    exact hleaves.resolvable
  · exact Resolvable.exists_unrollValue

/-- What is no reference does not begin with the mark of references. -/
lemma head?_ne_groupMark {t : String} (h : referencedGroup? t = none) :
    t.toList.head? ≠ some groupMark := by
  rw [referencedGroup?] at h
  cases ht : t.toList with
  | nil => simp
  | cons c name =>
    rw [ht] at h
    simp only [List.head?_cons, ne_eq, Option.some.injEq]
    rintro rfl
    simp at h

namespace Resolver

/--
Whatever was asked before, a value can be expanded exactly if its references can be followed to the
end. The tokens are then the leaves of the full expansion, each at its first occurrence, and none
begins with the mark of references; the selection is of everything exactly if the wildcard is a
leaf, and of these tokens otherwise.
-/
theorem expand_eq_leaves (table : Json.Members) (history : List Query) (v : Json) :
    ((∃ out, (((ofTable table).after history).expand v).1 = .ok out) ↔ Resolvable table v) ∧
      ∀ out, (((ofTable table).after history).expand v).1 = .ok out →
        (∃ leaves, v.Unfolds table leaves) ∧
          ∀ leaves, v.Unfolds table leaves →
            out.items = leaves.eraseDups ∧ out.items.Nodup ∧
              (∀ t ∈ out.items, t.toList.head? ≠ some groupMark) ∧
              (((ofTable table).after history).resolve v).1 =
                .ok (if wildcard ∈ leaves then .all else .listed out) := by
  have hserves := serves_after table history
  rw [(hserves.expand v).1, (hserves.resolve v).1]
  refine ⟨exists_unrollValue_iff, fun out hout => ?_⟩
  obtain ⟨leaves, hleaves, rfl⟩ := unfolds_unrollValue hout
  refine ⟨⟨leaves, hleaves⟩, fun leaves' hleaves' => ?_⟩
  obtain rfl := hleaves.unique hleaves'
  refine ⟨Tokens.items_ofList leaves, (Tokens.ofList leaves).nodup, fun t ht => ?_, ?_⟩
  · obtain ⟨tokens, -, htokens⟩ := hleaves
    exact head?_ne_groupMark (htokens.not_reference t (Tokens.mem_items_ofList.1 ht))
  · have hwild : (Tokens.ofList leaves).contains wildcard ↔ wildcard ∈ leaves :=
      Tokens.contains_iff.trans Tokens.mem_items_ofList
    rw [hout, Except.map, Selection.ofTokens]
    by_cases h : wildcard ∈ leaves <;> simp [hwild, h]

/-- Groups of which two refer to the same one. -/
def diamond : Json.Members :=
  [("base", .arr [.str "x"]), ("left", .arr [.str "@base", .str "l"]),
    ("right", .arr [.arr [.str "@base", .str "r"]])]

/-- References to both of these groups. -/
def bothSides : Json :=
  .arr [.str "@left", .str "@right"]

theorem expand_eq_leaves_diamond :
    (((ofTable diamond).after [.group "right"]).expand bothSides).1 =
        .ok (.ofList ["x", "l", "r"]) ∧
      (∃ leaves, bothSides.Unfolds diamond leaves) ∧
        ∀ leaves, bothSides.Unfolds diamond leaves →
          ["x", "l", "r"] = leaves.eraseDups := by
  have h : (((ofTable diamond).after [.group "right"]).expand bothSides).1 =
      .ok (.ofList ["x", "l", "r"]) := by cbv
  obtain ⟨hleaves, hitems⟩ := (expand_eq_leaves diamond [.group "right"] bothSides).2 _ h
  exact ⟨h, hleaves, fun leaves hl => (hitems leaves hl).1⟩

end Resolver

end Disclosure
