import Disclosure.Fact.Concept

/-!
# Sets of concepts

Concepts in increasing order, each once.
-/

namespace Disclosure

/-- A set of concepts. -/
structure ConceptSet where
  items : List Concept
  increasing : items.Pairwise (· < ·)
deriving DecidableEq

namespace ConceptSet

/-- No concepts. -/
def empty : ConceptSet := ⟨[], .nil⟩

instance : Inhabited ConceptSet := ⟨empty⟩

/-- Put a concept in its place, unless it is there. -/
def place (c : Concept) : List Concept → List Concept
  | [] => [c]
  | d :: ds => if c < d then c :: d :: ds else if c = d then d :: ds else d :: place c ds

@[simp] theorem mem_place {c x : Concept} {items : List Concept} :
    x ∈ place c items ↔ x = c ∨ x ∈ items := by
  induction items with
  | nil => simp [place]
  | cons d ds ih =>
    unfold place
    split
    · simp
    · split
      next heq => simp [heq]
      next => simp [ih, or_left_comm]

theorem increasing_place (c : Concept) {items : List Concept} (h : items.Pairwise (· < ·)) :
    (place c items).Pairwise (· < ·) := by
  induction items with
  | nil => exact List.pairwise_singleton _ _
  | cons d ds ih =>
    have hd := List.pairwise_cons.1 h
    unfold place
    split
    next hlt =>
      refine List.pairwise_cons.2 ⟨fun x hx => ?_, h⟩
      rcases List.mem_cons.1 hx with rfl | hx
      · exact hlt
      · exact Concept.lt_trans hlt (hd.1 x hx)
    next hlt =>
      split
      next => exact h
      next hne =>
        refine List.pairwise_cons.2 ⟨fun x hx => ?_, ih hd.2⟩
        rcases mem_place.1 hx with rfl | hx
        · exact Concept.lt_of_not_lt_of_ne hlt hne
        · exact hd.1 x hx

/-- Add a concept. -/
def insert (s : ConceptSet) (c : Concept) : ConceptSet :=
  ⟨place c s.items, increasing_place c s.increasing⟩

/-- The set of the concepts in a list. -/
def ofList (items : List Concept) : ConceptSet :=
  items.foldl insert empty

@[simp] theorem mem_items_insert {s : ConceptSet} {c x : Concept} :
    x ∈ (s.insert c).items ↔ x = c ∨ x ∈ s.items :=
  mem_place

theorem mem_items_foldl_insert {items : List Concept} {s : ConceptSet} {x : Concept} :
    x ∈ (items.foldl insert s).items ↔ x ∈ s.items ∨ x ∈ items := by
  induction items generalizing s with
  | nil => simp
  | cons c cs ih => simp [ih, or_assoc, or_left_comm]

@[simp] theorem mem_items_ofList {items : List Concept} {x : Concept} :
    x ∈ (ofList items).items ↔ x ∈ items := by
  simp [ofList, mem_items_foldl_insert, empty]

end ConceptSet

end Disclosure
