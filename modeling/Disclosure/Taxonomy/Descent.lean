import Disclosure.Search.Path
import Disclosure.Taxonomy.Containment

/-!
# Descent

Whether a concept is contained in another through any number of relationships, each in the
consecutive role of the one before. The search goes by breadth and visits every stop once. A stop
is a concept together with a role: in another role a concept may contain other concepts.
-/

namespace Disclosure

/--
Where a search stops: at a concept, and in the role in which its relationships are looked up.
Without a role they are looked up in every role.
-/
structure Stop where
  concept : Concept
  role : Option String
deriving DecidableEq

/-- The stop that a relationship leads to. -/
def Relationship.arrival (r : Relationship) : Stop :=
  ⟨r.target, some r.consecutiveRole⟩

namespace Containment

/-- The relationships of every kind that leave a stop. -/
def onward (g : Containment) (s : Stop) : List Relationship :=
  Arcrole.all.flatMap fun arcrole => g.leaving s.concept arcrole s.role

theorem mem_of_mem_onward {g : Containment} {s : Stop} {r : Relationship} (h : r ∈ g.onward s) :
    r ∈ g.relationships := by
  obtain ⟨_, _, h⟩ := List.mem_flatMap.1 h
  exact mem_of_mem_leaving h

/-- The stops that a search may come to: the one that it starts from, and those led to. -/
def stopsFrom (g : Containment) (start : Stop) : List Stop :=
  start :: g.relationships.map (·.arrival)

theorem arrival_mem_stopsFrom {g : Containment} {r : Relationship} (h : r ∈ g.relationships)
    (start : Stop) : r.arrival ∈ g.stopsFrom start :=
  List.mem_cons_of_mem _ (List.mem_map_of_mem h)

theorem mem_stopsFrom_of_queue {g : Containment} {start s : Stop} {queue : List Stop}
    (hqueue : ∀ t ∈ queue, t ∈ g.stopsFrom start) :
    ∀ t ∈ queue ++ (g.onward s).map (·.arrival), t ∈ g.stopsFrom start := by
  intro t ht
  rcases List.mem_append.1 ht with ht | ht
  · exact hqueue t ht
  · obtain ⟨r, hr, rfl⟩ := List.mem_map.1 ht
    exact arrival_mem_stopsFrom (mem_of_mem_onward hr) start

set_option linter.unusedVariables false in
/--
Whether a relationship leads to `target` from one of the stops in `queue`, or from one that they
lead to. The search started from `start`, and does not come back to the stops in `visited`.
-/
def search (g : Containment) (target : Concept) (start : Stop) (visited queue : List Stop)
    (hqueue : ∀ s ∈ queue, s ∈ g.stopsFrom start) : Bool :=
  match queue with
  | [] => false
  | s :: queue =>
    have hrest : ∀ t ∈ queue, t ∈ g.stopsFrom start :=
      fun t ht => hqueue t (List.mem_cons_of_mem s ht)
    if hs : s ∈ visited then search g target start visited queue hrest
    else if (g.onward s).any (·.target == target) then true
    else
      search g target start (visited ++ [s]) (queue ++ (g.onward s).map (·.arrival))
        (mem_stopsFrom_of_queue hrest)
termination_by (unvisited id (g.stopsFrom start) visited, queue.length)
decreasing_by
  · exact Prod.Lex.right _ (Nat.lt_succ_self _)
  · have hs : id s ∉ visited := hs
    exact Prod.Lex.left _ _ (unvisited_lt (hqueue s List.mem_cons_self) hs)

/-- Whether a concept is contained in `root`, the first step being in a role if one is given. -/
def reaches (g : Containment) (root target : Concept) (role : Option String) : Bool :=
  g.search target ⟨root, role⟩ [] [⟨root, role⟩] fun _ h =>
    List.mem_singleton.1 h ▸ List.mem_cons_self

end Containment

end Disclosure
