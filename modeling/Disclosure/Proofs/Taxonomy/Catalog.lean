import Mathlib.Data.List.Basic
import Disclosure.Taxonomy.Catalog

/-!
# Reading catalogs

Reading succeeds if and only if each of its steps does. A list is read item by item, and the results
stand in the order of the items.
-/

namespace Disclosure

section Except

variable {ε α β : Type} {x : Except ε α} {f : α → Except ε β} {xs : List α} {ys : List β} {b : β}

lemma bind_eq_ok_iff : x >>= f = .ok b ↔ ∃ a, x = .ok a ∧ f a = .ok b := by
  cases x with
  | error e => exact iff_of_false nofun nofun
  | ok a =>
    constructor
    · intro h
      exact ⟨a, rfl, h⟩
    · rintro ⟨_, ⟨⟩, h⟩
      exact h

lemma mapM_eq_ok_iff :
    xs.mapM f = .ok ys ↔ List.Forall₂ (fun x y => f x = .ok y) xs ys := by
  induction xs generalizing ys with
  | nil =>
    constructor
    · rintro ⟨⟩
      exact .nil
    · rintro ⟨⟩
      rfl
  | cons x xs ih =>
    rw [List.mapM_cons, bind_eq_ok_iff]
    constructor
    · rintro ⟨y, hy, hrest⟩
      obtain ⟨ys', hys, ⟨⟩⟩ := bind_eq_ok_iff.1 hrest
      exact .cons hy (ih.1 hys)
    · intro h
      cases h with
      | @cons _ y _ ys' hy hys => exact ⟨y, hy, bind_eq_ok_iff.2 ⟨ys', ih.2 hys, rfl⟩⟩

lemma mem_iff_of_mapM (h : xs.mapM f = .ok ys) : b ∈ ys ↔ ∃ a ∈ xs, f a = .ok b := by
  rw [mapM_eq_ok_iff] at h
  induction h with
  | nil => simp
  | @cons x y xs ys hxy _ ih => simp [ih, hxy, @eq_comm _ b]

lemma exists_eq_ok_of_mapM (h : xs.mapM f = .ok ys) {a : α} (ha : a ∈ xs) : ∃ b, f a = .ok b := by
  rw [mapM_eq_ok_iff] at h
  induction h with
  | nil => cases ha
  | @cons x y xs ys hxy _ ih =>
    rcases List.mem_cons.1 ha with rfl | ha
    · exact ⟨y, hxy⟩
    · exact ih ha

lemma exists_mapM_eq_ok_iff : (∃ ys, xs.mapM f = .ok ys) ↔ ∀ a ∈ xs, ∃ b, f a = .ok b := by
  constructor
  · rintro ⟨ys, h⟩ a ha
    exact exists_eq_ok_of_mapM h ha
  · intro h
    induction xs with
    | nil => exact ⟨[], rfl⟩
    | cons x xs ih =>
      obtain ⟨⟨y, hy⟩, hxs⟩ := List.forall_mem_cons.1 h
      obtain ⟨ys, hys⟩ := ih hxs
      exact ⟨y :: ys, mapM_eq_ok_iff.2 (.cons hy (mapM_eq_ok_iff.1 hys))⟩

/-- The first item that cannot be read decides about the error. -/
lemma mapM_eq_error {before after : List α} {a : α} {e : ε}
    (hbefore : ∀ x ∈ before, ∃ b, f x = .ok b) (ha : f a = .error e) :
    (before ++ a :: after).mapM f = .error e := by
  induction before with
  | nil =>
    rw [List.nil_append, List.mapM_cons, ha]
    rfl
  | cons x before ih =>
    obtain ⟨⟨y, hy⟩, hrest⟩ := List.forall_mem_cons.1 hbefore
    rw [List.cons_append, List.mapM_cons, hy, ih hrest]
    rfl

end Except

namespace CatalogError

lemma needMembers_eq_ok_iff {key expected : String} {v : Option Json} {ms : Json.Members} :
    needMembers key expected v = .ok ms ↔ v = some (.obj ms) := by
  cases v with
  | none => simp [needMembers]
  | some w => cases w <;> simp [needMembers]

end CatalogError

end Disclosure
