import Mathlib.Data.List.Chain
import Mathlib.Data.List.Nodup
import Disclosure.Search.Path

/-!
# Cycles on the path of a search

A search that only goes from a node to a related one, and only to nodes that are not on its path,
keeps a path without repetition. So a node that it meets again closes a cycle of the relation
(`isCycle_cycleAt`).
-/

namespace Disclosure

variable {α : Type} [DecidableEq α] {R : α → α → Prop} {path : List α} {a : α}

/--
Whether a list is a cycle that a node closes: the node stands first and last, no other node repeats,
and every node is related to the next.
-/
def IsCycle (R : α → α → Prop) (a : α) (cycle : List α) : Prop :=
  ∃ inner, cycle = a :: (inner ++ [a]) ∧ (a :: inner).Nodup ∧ cycle.IsChain R

lemma cycleAt_append_cons {before after : List α} (h : a ∉ before) :
    cycleAt (before ++ a :: after) a = a :: (after ++ [a]) := by
  have hbefore : ∀ b ∈ before, decide (b ≠ a) = true := by
    intro b hb
    simpa using ne_of_mem_of_not_mem hb h
  rw [cycleAt, List.dropWhile_append_of_pos hbefore]
  simp

/-- A node that stands on a path and is related to its end closes a cycle. -/
lemma isCycle_cycleAt (hpath : path.Nodup) (hchain : (path ++ [a]).IsChain R) (ha : a ∈ path) :
    IsCycle R a (cycleAt path a) := by
  obtain ⟨before, after, rfl, hbefore⟩ := List.eq_append_cons_of_mem ha
  refine ⟨after, cycleAt_append_cons hbefore, (List.nodup_append.1 hpath).2.1, ?_⟩
  rw [cycleAt_append_cons hbefore]
  rw [List.append_assoc, List.cons_append] at hchain
  exact hchain.right_of_append

end Disclosure
