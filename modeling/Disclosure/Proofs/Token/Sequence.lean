import Disclosure.Proofs.Grouping
import Disclosure.Token.Sequence

/-!
# Sequences built step by step

However a sequence of tokens is built, it holds the tokens that were inserted, each at its first
occurrence, and its index tells of every token whether it is among them (`tokens_distinct`). So
appending one sequence to another is a union that keeps the order of first occurrences.
-/

namespace Disclosure

namespace Tokens

/-! ### Tokens inserted one after the other -/

lemma insert_of_mem {ts : Tokens} {t : String} (h : t ∈ ts.items) : ts.insert t = ts := by
  rw [insert, tryInsert_of_mem h]

lemma items_insert_of_notMem {ts : Tokens} {t : String} (h : t ∉ ts.items) :
    (ts.insert t).items = ts.items ++ [t] := by
  rw [items_insert, if_neg h]

lemma insertMany_concat (ts : Tokens) (l : List String) (t : String) :
    ts.insertMany (l ++ [t]) = (ts.insertMany l).insert t := by
  rw [insertMany_append, insertMany_cons, insertMany_nil]

lemma ofList_concat (l : List String) (t : String) : ofList (l ++ [t]) = (ofList l).insert t :=
  insertMany_concat empty l t

lemma ofList_append (l m : List String) : ofList (l ++ m) = (ofList l).insertMany m :=
  insertMany_append empty l m

lemma mem_items_insertMany {ts : Tokens} {l : List String} {u : String} :
    u ∈ (ts.insertMany l).items ↔ u ∈ ts.items ∨ u ∈ l := by
  induction l generalizing ts with
  | nil => simp
  | cons t l ih => rw [insertMany_cons, ih, mem_items_insert, List.mem_cons, or_assoc]

lemma mem_items_ofList {l : List String} {u : String} : u ∈ (ofList l).items ↔ u ∈ l := by
  simp [ofList, mem_items_insertMany]

/-- Nothing happens where all tokens are present. -/
lemma insertMany_of_forall_mem {ts : Tokens} {l : List String} (h : ∀ t ∈ l, t ∈ ts.items) :
    ts.insertMany l = ts := by
  induction l with
  | nil => rfl
  | cons t l ih =>
    rw [insertMany_cons, insert_of_mem (h t List.mem_cons_self)]
    exact ih fun u hu => h u (List.mem_cons_of_mem t hu)

/-- The distinct tokens of a list are those of the list, each at its first occurrence. -/
lemma items_ofList (l : List String) : (ofList l).items = l.eraseDups := by
  induction l using List.reverseRecOn with
  | nil => rfl
  | append_singleton l t ih =>
    rw [ofList_concat, items_insert, ih, Grouping.eraseDups_concat]
    simp only [List.mem_eraseDups]

/-! ### Whether a token is added -/

lemma tryInsert_snd_iff {ts : Tokens} {t : String} : (ts.tryInsert t).2 ↔ t ∉ ts.items := by
  by_cases h : t ∈ ts.items
  · simp [tryInsert_of_mem h, h]
  · simp [tryInsert_of_notMem h, h]

lemma insert_eq_self_iff {ts : Tokens} {t : String} : ts.insert t = ts ↔ t ∈ ts.items := by
  refine ⟨fun h => ?_, insert_of_mem⟩
  rw [← h]
  exact mem_items_insert.2 (.inr rfl)

/-! ### One sequence appended to another -/

lemma union_insert (a b : Tokens) (t : String) : a.union (b.insert t) = (a.union b).insert t := by
  by_cases h : t ∈ b.items
  · have ht : t ∈ (a.union b).items := mem_items_insertMany.2 (.inr h)
    rw [insert_of_mem h, insert_of_mem ht]
  · rw [union, items_insert_of_notMem h, insertMany_concat, union]

lemma union_insertMany (a b : Tokens) (l : List String) :
    a.union (b.insertMany l) = (a.union b).insertMany l := by
  induction l generalizing b with
  | nil => rfl
  | cons t l ih => rw [insertMany_cons, ih, union_insert, insertMany_cons]

/-- Repetitions that are left out of a list are not missed when it is appended. -/
lemma union_ofList (ts : Tokens) (l : List String) : ts.union (ofList l) = ts.insertMany l :=
  union_insertMany ts empty l

lemma union_assoc (a b c : Tokens) : (a.union b).union c = a.union (b.union c) :=
  (union_insertMany a b c.items).symm

lemma union_self (ts : Tokens) : ts.union ts = ts :=
  insertMany_of_forall_mem fun _ h => h

end Tokens

/-! ### Any way of building -/

/-- A way in which a sequence of tokens is built. -/
inductive Construction where
  | new
  /-- Collect the tokens of a list. -/
  | collect (tokens : List String)
  | insert (before : Construction) (t : String)
  /-- Append another sequence, which has been built in its own way. -/
  | extend (before other : Construction)

namespace Construction

/-- The sequence that is built. -/
def tokens : Construction → Tokens
  | new => .empty
  | collect tokens => .ofList tokens
  | insert before t => before.tokens.insert t
  | extend before other => before.tokens.union other.tokens

/-- All that is inserted, in order. Of another sequence these are its items. -/
def inserted : Construction → List String
  | new => []
  | collect tokens => tokens
  | insert before t => before.inserted ++ [t]
  | extend before other => before.inserted ++ other.tokens.items

/-- Every step leaves the sequence that is made from the list of all inserted so far. -/
lemma tokens_eq (c : Construction) : c.tokens = .ofList c.inserted := by
  induction c with
  | new => rfl
  | collect tokens => rfl
  | insert before t ih => rw [tokens, inserted, Tokens.ofList_concat, ih]
  | extend before other ih _ => rw [tokens, inserted, Tokens.ofList_append, ih, Tokens.union]

/--
The items are the first occurrences of all that was inserted, none of them twice, and the index
agrees with them. A token is added exactly if it is not among them, and otherwise nothing changes.
Sequences with the same items are equal; appending is associative, and appending again what is
there changes nothing.
-/
theorem tokens_distinct (c : Construction) :
    c.tokens.items = c.inserted.eraseDups ∧ c.tokens.items.Nodup ∧
      (∀ t, c.tokens.contains t ↔ t ∈ c.tokens.items) ∧
      (∀ t, (c.tokens.tryInsert t).2 ↔ t ∉ c.tokens.items) ∧
      (∀ t, (c.tokens.tryInsert t).2 = false ↔ (c.tokens.tryInsert t).1 = c.tokens) ∧
      (∀ d : Construction, c.tokens = d.tokens ↔ c.tokens.items = d.tokens.items) ∧
      (∀ d e : Construction, (c.tokens.union d.tokens).union e.tokens =
        c.tokens.union (d.tokens.union e.tokens)) ∧
      c.tokens.union c.tokens = c.tokens ∧
      ∀ d : Construction, (c.tokens.union d.tokens).union d.tokens = c.tokens.union d.tokens := by
  have hitems : c.tokens.items = c.inserted.eraseDups := by
    rw [tokens_eq, Tokens.items_ofList]
  have hunchanged : ∀ t,
      (c.tokens.tryInsert t).2 = false ↔ (c.tokens.tryInsert t).1 = c.tokens := by
    intro t
    have hadded : (c.tokens.tryInsert t).2 = false ↔ t ∈ c.tokens.items := by
      rw [← Bool.not_eq_true, Tokens.tryInsert_snd_iff, not_not]
    exact hadded.trans Tokens.insert_eq_self_iff.symm
  have hrepeated : ∀ d : Construction,
      (c.tokens.union d.tokens).union d.tokens = c.tokens.union d.tokens := by
    intro d
    rw [Tokens.union_assoc, Tokens.union_self]
  exact ⟨hitems, c.tokens.nodup, fun _ => Tokens.contains_iff, fun _ => Tokens.tryInsert_snd_iff,
    hunchanged, fun _ => ⟨congrArg Tokens.items, Tokens.ext⟩, fun _ _ => Tokens.union_assoc _ _ _,
    Tokens.union_self _, hrepeated⟩

example : (extend (collect ["b", "a", "b"]) (insert (collect ["c", "a"]) "d")).tokens.items =
    ["b", "a", "c", "d"] := by decide

end Construction

end Disclosure
