import Mathlib.Data.List.Chain
import Disclosure.Taxonomy.Descent

/-!
# Descents

A concept is found below another one exactly if a descent leads there, a sequence of relationships
each of which follows the one before (`reaches_iff_descent`).

The search does not look again at a stop that it has visited. Nothing is lost, because visited stops
are explored: a relationship that leaves one does not end at the target, and it leads to a stop that
is visited or waits in the queue. So a descent from a visited stop passes through the queue.
-/

namespace Disclosure

namespace Containment

variable {g : Containment} {root target : Concept} {role : Option String} {start s : Stop}
  {visited queue : List Stop} {r : Relationship} {steps : List Relationship}

/-! ### Descents -/

/--
A descent from a stop: the first relationship leaves the stop, each other one leaves the target of
the one before in its consecutive role, and the last one ends at the target.
-/
structure Descent (g : Containment) (s : Stop) (target : Concept) (steps : List Relationship) :
    Prop where
  added : ∀ r ∈ steps, r ∈ g.relationships ∧ r.arcrole ∈ Arcrole.all
  leaves : ∃ r ∈ steps.head?, r.source = s.concept ∧ inRole s.role r
  consecutive : steps.IsChain fun r next => next.follows r
  ends : ∃ r ∈ steps.getLast?, r.target = target

lemma mem_onward :
    r ∈ g.onward s ↔
      r ∈ g.relationships ∧ r.arcrole ∈ Arcrole.all ∧ r.source = s.concept ∧ inRole s.role r := by
  simp only [onward, List.mem_flatMap, mem_leaving]
  constructor
  · rintro ⟨arcrole, hall, hr, hsource, rfl, hrole⟩
    exact ⟨hr, hall, hsource, hrole⟩
  · rintro ⟨hr, hall, hsource, hrole⟩
    exact ⟨r.arcrole, hall, hr, hsource, rfl, hrole⟩

/-- What leaves the stop where a relationship arrives follows the relationship. -/
lemma leaves_arrival {next : Relationship} :
    next.source = r.arrival.concept ∧ inRole r.arrival.role next ↔ next.follows r := by
  simp [Relationship.arrival, Relationship.follows_iff]

lemma descent_cons :
    g.Descent s target (r :: steps) ↔
      r ∈ g.onward s ∧ (steps = [] ∧ r.target = target ∨ g.Descent r.arrival target steps) := by
  rw [mem_onward]
  constructor
  · rintro ⟨hadded, ⟨r', hhead, hleaves⟩, hchain, hends⟩
    obtain rfl : r = r' := by simpa using hhead
    obtain ⟨⟨hr, hall⟩, hadded⟩ := List.forall_mem_cons.1 hadded
    refine ⟨⟨hr, hall, hleaves⟩, ?_⟩
    cases steps with
    | nil => exact .inl ⟨rfl, by simpa using hends⟩
    | cons next steps =>
      obtain ⟨hnext, hchain⟩ := List.isChain_cons_cons.1 hchain
      refine .inr ⟨hadded, ⟨next, rfl, leaves_arrival.2 hnext⟩, hchain, ?_⟩
      rwa [List.getLast?_cons_cons] at hends
  · rintro ⟨⟨hr, hall, hleaves⟩, ⟨rfl, htarget⟩ | hrest⟩
    · refine ⟨?_, ⟨r, rfl, hleaves⟩, List.isChain_singleton r, ⟨r, rfl, htarget⟩⟩
      simpa using ⟨hr, hall⟩
    · obtain ⟨hadded, ⟨next, hnext, hfollows⟩, hchain, hends⟩ := hrest
      obtain ⟨steps', rfl⟩ := List.head?_eq_some_iff.1 hnext
      refine ⟨List.forall_mem_cons.2 ⟨⟨hr, hall⟩, hadded⟩, ⟨r, rfl, hleaves⟩, ?_, ?_⟩
      · exact List.isChain_cons_cons.2 ⟨leaves_arrival.1 hfollows, hchain⟩
      · rwa [List.getLast?_cons_cons]

/-- Whether a descent leads from a stop to the target. -/
def LeadsDown (g : Containment) (target : Concept) (s : Stop) : Prop :=
  ∃ steps, g.Descent s target steps

lemma leadsDown_iff :
    g.LeadsDown target s ↔ ∃ r ∈ g.onward s, r.target = target ∨ g.LeadsDown target r.arrival := by
  constructor
  · rintro ⟨steps, h⟩
    cases steps with
    | nil =>
      obtain ⟨r, hr, -⟩ := h.leaves
      cases hr
    | cons r steps =>
      obtain ⟨hr, ⟨-, htarget⟩ | hrest⟩ := descent_cons.1 h
      · exact ⟨r, hr, .inl htarget⟩
      · exact ⟨r, hr, .inr ⟨steps, hrest⟩⟩
  · rintro ⟨r, hr, htarget | ⟨steps, hrest⟩⟩
    · exact ⟨[r], descent_cons.2 ⟨hr, .inl ⟨rfl, htarget⟩⟩⟩
    · exact ⟨r :: steps, descent_cons.2 ⟨hr, .inr hrest⟩⟩

/-! ### The search -/

/-- Whether the visited stops are explored, up to what waits in the queue. -/
def Explored (g : Containment) (target : Concept) (visited queue : List Stop) : Prop :=
  ∀ s ∈ visited, ∀ r ∈ g.onward s, r.target ≠ target ∧ (r.arrival ∈ visited ∨ r.arrival ∈ queue)

/-- A descent from a visited stop passes through the queue. -/
lemma Explored.exists_mem_queue (h : g.Explored target visited queue) (hs : s ∈ visited)
    (hleads : g.LeadsDown target s) : ∃ t ∈ queue, g.LeadsDown target t := by
  obtain ⟨steps, hsteps⟩ := hleads
  induction steps generalizing s with
  | nil =>
    obtain ⟨r, hr, -⟩ := hsteps.leaves
    cases hr
  | cons r steps ih =>
    obtain ⟨hr, hrest⟩ := descent_cons.1 hsteps
    obtain ⟨hne, harrival⟩ := h s hs r hr
    rcases hrest with ⟨-, htarget⟩ | hrest
    · exact absurd htarget hne
    · rcases harrival with hvisited | hqueue
      · exact ih hvisited hrest
      · exact ⟨r.arrival, hqueue, steps, hrest⟩

/-- A stop that is visited already can be dropped from the queue. -/
lemma Explored.skip (h : g.Explored target visited (s :: queue)) (hs : s ∈ visited) :
    g.Explored target visited queue := by
  intro t ht r hr
  obtain ⟨hne, harrival⟩ := h t ht r hr
  refine ⟨hne, ?_⟩
  rcases harrival with hvisited | hqueue
  · exact .inl hvisited
  · rcases List.mem_cons.1 hqueue with heq | hqueue
    · exact .inl (heq ▸ hs)
    · exact .inr hqueue

/-- A stop from which no relationship ends at the target is explored by queueing what follows. -/
lemma Explored.visit (h : g.Explored target visited (s :: queue))
    (hs : ∀ r ∈ g.onward s, r.target ≠ target) :
    g.Explored target (visited ++ [s]) (queue ++ (g.onward s).map (·.arrival)) := by
  intro t ht r hr
  rw [List.mem_append, List.mem_singleton] at ht
  rw [List.mem_append, List.mem_singleton, List.mem_append]
  rcases ht with ht | rfl
  · obtain ⟨hne, harrival⟩ := h t ht r hr
    rw [List.mem_cons] at harrival
    refine ⟨hne, ?_⟩
    rcases harrival with hvisited | heq | hqueue
    · exact .inl (.inl hvisited)
    · exact .inl (.inr heq)
    · exact .inr (.inl hqueue)
  · exact ⟨hs r hr, .inr (.inr (List.mem_map_of_mem hr))⟩

/-- The search finds the target exactly if a descent leads there from a stop in the queue. -/
lemma search_iff (hqueue : ∀ s ∈ queue, s ∈ g.stopsFrom start)
    (h : g.Explored target visited queue) :
    g.search target start visited queue hqueue ↔ ∃ s ∈ queue, g.LeadsDown target s := by
  fun_induction search g target start visited queue hqueue with
  | case1 => simp
  | case2 visited s queue _ _ hs _ ih =>
    rw [ih (h.skip hs), List.exists_mem_cons_iff]
    constructor
    · exact .inr
    · rintro (hleads | hqueue)
      · exact (h.skip hs).exists_mem_queue hs hleads
      · exact hqueue
  | case3 visited s queue _ _ _ hfound =>
    obtain ⟨r, hr, htarget⟩ := List.any_eq_true.1 hfound
    have hleads : g.LeadsDown target s :=
      leadsDown_iff.2 ⟨r, hr, .inl (by simpa using htarget)⟩
    exact iff_of_true rfl ⟨s, List.mem_cons_self, hleads⟩
  | case4 visited s queue _ _ _ hfound _ ih =>
    have hne : ∀ r ∈ g.onward s, r.target ≠ target := by
      intro r hr heq
      exact hfound (List.any_eq_true.2 ⟨r, hr, by simpa using heq⟩)
    rw [ih (h.visit hne), List.exists_mem_cons_iff]
    constructor
    · rintro ⟨t, ht, hleads⟩
      rcases List.mem_append.1 ht with ht | ht
      · exact .inr ⟨t, ht, hleads⟩
      · obtain ⟨r, hr, rfl⟩ := List.mem_map.1 ht
        exact .inl (leadsDown_iff.2 ⟨r, hr, .inr hleads⟩)
    · rintro (hleads | ⟨t, ht, hleads⟩)
      · obtain ⟨r, hr, htarget | hleads⟩ := leadsDown_iff.1 hleads
        · exact absurd htarget (hne r hr)
        · exact ⟨r.arrival, List.mem_append_right _ (List.mem_map_of_mem hr), hleads⟩
      · exact ⟨t, List.mem_append_left _ ht, hleads⟩

/-- A concept is found below another one exactly if a descent leads to it. -/
theorem reaches_iff_descent (rs : List Relationship) (root target : Concept)
    (role : Option String) :
    (ofList rs).reaches root target role = true ↔
      ∃ steps, (ofList rs).Descent ⟨root, role⟩ target steps := by
  have hnone : (ofList rs).Explored target [] [⟨root, role⟩] := by
    intro s hs
    cases hs
  rw [reaches, search_iff _ hnone]
  simp [LeadsDown]

end Containment

end Disclosure
