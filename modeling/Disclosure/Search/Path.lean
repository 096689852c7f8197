/-!
# Paths of a search

A search keeps the nodes on the way to the current one on a path. A node that is on the path
already closes a cycle. Every other node makes the path longer, and fewer nodes are left.
-/

namespace Disclosure

variable {α β : Type} [DecidableEq α]

/-- How many items lead to a node that is not on the path. -/
def unvisited (node : β → α) (items : List β) (path : List α) : Nat :=
  items.countP fun i => decide (node i ∉ path)

theorem unvisited_cons (node : β → α) (i : β) (items : List β) (path : List α) :
    unvisited node (i :: items) path =
      unvisited node items path + if node i ∈ path then 0 else 1 := by
  by_cases h : node i ∈ path <;> simp [unvisited, h]

theorem unvisited_le (node : β → α) (items : List β) (path : List α) (a : α) :
    unvisited node items (path ++ [a]) ≤ unvisited node items path := by
  refine List.countP_mono_left fun i _ h => ?_
  simp only [decide_eq_true_eq, List.mem_append, not_or] at h ⊢
  exact h.1

theorem unvisited_lt {node : β → α} {items : List β} {path : List α} {i : β} (hi : i ∈ items)
    (hp : node i ∉ path) : unvisited node items (path ++ [node i]) < unvisited node items path := by
  induction items with
  | nil => simp at hi
  | cons j items ih =>
    simp only [unvisited_cons]
    have hle := unvisited_le node items path (node i)
    rcases List.mem_cons.1 hi with rfl | hi
    · simp only [hp, List.mem_append, List.mem_singleton, or_true, if_true, if_false]
      omega
    · have := ih hi
      by_cases hj : node j ∈ path <;> by_cases hij : node j = node i <;>
        simp [hj, hij] <;> omega

/-- The cycle that a node closes on a path: from the node on, and back to it. -/
def cycleAt (path : List α) (a : α) : List α :=
  path.dropWhile (· ≠ a) ++ [a]

/-- The names of a cycle, joined by arrows. -/
def arrows (cycle : List String) : String :=
  String.intercalate " -> " cycle

end Disclosure
