/-!
# Concepts

Names in a namespace. Axes and their members are concepts too.
-/

namespace Disclosure

/-- A concept: its namespace and its name there. -/
structure Concept where
  ns : String
  name : String
deriving DecidableEq, Inhabited

namespace Concept

/-- The namespace in braces, followed by the name. -/
def text (c : Concept) : String :=
  "\x7b" ++ c.ns ++ "\x7d" ++ c.name

/-! ### Order -/

/-- Concepts are ordered by namespace, then by name, both by code points. -/
instance : LT Concept := ⟨fun a b => a.ns < b.ns ∨ a.ns = b.ns ∧ a.name < b.name⟩

instance : DecidableLT Concept := fun a b =>
  inferInstanceAs (Decidable (a.ns < b.ns ∨ a.ns = b.ns ∧ a.name < b.name))

theorem lt_def {a b : Concept} : a < b ↔ a.ns < b.ns ∨ a.ns = b.ns ∧ a.name < b.name := Iff.rfl

theorem lt_irrefl (a : Concept) : ¬ a < a := by
  rintro (h | ⟨_, h⟩) <;> exact String.lt_irrefl _ h

theorem lt_trans {a b c : Concept} (hab : a < b) (hbc : b < c) : a < c := by
  rw [lt_def] at *
  rcases hab with hab | ⟨hab, hab'⟩ <;> rcases hbc with hbc | ⟨hbc, hbc'⟩
  · exact .inl (String.lt_trans hab hbc)
  · exact .inl (hbc ▸ hab)
  · exact .inl (hab ▸ hbc)
  · exact .inr ⟨hab.trans hbc, String.lt_trans hab' hbc'⟩

private theorem string_eq_of_not_lt {a b : String} (h : ¬ a < b) (h' : ¬ b < a) : a = b :=
  String.le_antisymm (String.not_lt.1 h') (String.not_lt.1 h)

theorem lt_of_not_lt_of_ne {a b : Concept} (h : ¬ a < b) (hne : a ≠ b) : b < a := by
  rw [lt_def, not_or, not_and] at h
  rw [lt_def]
  by_cases hns : b.ns < a.ns
  · exact .inl hns
  · have heq := string_eq_of_not_lt h.1 hns
    refine .inr ⟨heq.symm, ?_⟩
    by_cases hname : b.name < a.name
    · exact hname
    · have := string_eq_of_not_lt (h.2 heq) hname
      exact absurd (by cases a; cases b; simp_all) hne

theorem not_lt_trans {a b c : Concept} (hba : ¬ b < a) (hcb : ¬ c < b) : ¬ c < a := by
  intro hca
  by_cases hbc : b = c
  · exact hba (hbc ▸ hca)
  · exact hba (lt_trans (lt_of_not_lt_of_ne hcb (Ne.symm hbc)) hca)

end Concept

end Disclosure
