/-!
# Ordered tokens

Sequences of tokens without repetition. A token keeps the place of its first occurrence.
-/

namespace Disclosure

/-- Tokens in the order in which they were first inserted, with an index of those present. -/
structure Tokens where
  items : List String
  /-- Whether a token is present. Look-up does not go through the items. -/
  index : String → Bool
  nodup : items.Nodup
  index_iff : ∀ t, index t = true ↔ t ∈ items

namespace Tokens

/-- The items determine the index. -/
theorem ext {a b : Tokens} (h : a.items = b.items) : a = b := by
  have hindex : a.index = b.index := by
    funext t
    rw [Bool.eq_iff_iff, a.index_iff, b.index_iff, h]
  cases a
  cases b
  cases h
  cases hindex
  rfl

instance : DecidableEq Tokens :=
  fun _ _ => decidable_of_iff _ ⟨ext, congrArg items⟩

/-- No tokens. -/
def empty : Tokens where
  items := []
  index _ := false
  nodup := List.nodup_nil
  index_iff := by simp

instance : Inhabited Tokens := ⟨empty⟩

/-- Whether a token is present. -/
def contains (ts : Tokens) (t : String) : Bool :=
  ts.index t

/-- How many tokens there are. -/
def size (ts : Tokens) : Nat :=
  ts.items.length

/-- Whether there are no tokens. -/
def isEmpty (ts : Tokens) : Bool :=
  ts.items.isEmpty

private theorem nodup_concat {items : List String} (h : items.Nodup) {t : String}
    (ht : t ∉ items) : (items ++ [t]).Nodup := by
  rw [List.nodup_append]
  refine ⟨h, by simp, ?_⟩
  intro a ha b hb hab
  rw [List.mem_singleton] at hb
  exact ht (hb ▸ hab ▸ ha)

/-- Append a token that is not present, and enter it into the index. -/
def append (ts : Tokens) (t : String) (h : ¬ ts.index t) : Tokens where
  items := ts.items ++ [t]
  index u := u == t || ts.index u
  nodup := nodup_concat ts.nodup (mt (ts.index_iff t).2 h)
  index_iff u := by simp [ts.index_iff, or_comm]

/-- Append a token unless it is present, and tell whether it was added. -/
def tryInsert (ts : Tokens) (t : String) : Tokens × Bool :=
  if h : ts.index t then (ts, false) else (ts.append t h, true)

/-- Append a token unless it is present. -/
def insert (ts : Tokens) (t : String) : Tokens :=
  (ts.tryInsert t).1

/-- Append every token of a list that is not present. -/
def insertMany (ts : Tokens) (more : List String) : Tokens :=
  more.foldl insert ts

/-- Append the tokens of another sequence that are not present. -/
def union (ts other : Tokens) : Tokens :=
  ts.insertMany other.items

/-- The distinct tokens of a list, in the order of their first occurrence. -/
def ofList (items : List String) : Tokens :=
  empty.insertMany items

/-! ### The items after each operation -/

@[simp] theorem items_empty : empty.items = [] := rfl

theorem tryInsert_of_mem {ts : Tokens} {t : String} (h : t ∈ ts.items) :
    ts.tryInsert t = (ts, false) := by
  rw [tryInsert, dif_pos ((ts.index_iff t).2 h)]

theorem tryInsert_of_notMem {ts : Tokens} {t : String} (h : t ∉ ts.items) :
    ts.tryInsert t = (ts.append t (mt (ts.index_iff t).1 h), true) := by
  rw [tryInsert, dif_neg]

theorem items_insert (ts : Tokens) (t : String) :
    (ts.insert t).items = if t ∈ ts.items then ts.items else ts.items ++ [t] := by
  split
  next h => rw [insert, tryInsert_of_mem h]
  next h => rw [insert, tryInsert_of_notMem h, append]

@[simp] theorem mem_items_insert {ts : Tokens} {t u : String} :
    u ∈ (ts.insert t).items ↔ u ∈ ts.items ∨ u = t := by
  rw [items_insert]
  split
  · constructor
    · exact .inl
    · rintro (h | rfl) <;> assumption
  · simp

theorem contains_iff {ts : Tokens} {t : String} : ts.contains t = true ↔ t ∈ ts.items :=
  ts.index_iff t

@[simp] theorem insertMany_nil (ts : Tokens) : ts.insertMany [] = ts := rfl

@[simp] theorem insertMany_cons (ts : Tokens) (t : String) (more : List String) :
    ts.insertMany (t :: more) = (ts.insert t).insertMany more := rfl

theorem insertMany_append (ts : Tokens) (a b : List String) :
    ts.insertMany (a ++ b) = (ts.insertMany a).insertMany b := by
  simp [insertMany]

end Tokens

end Disclosure
