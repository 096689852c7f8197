import Mathlib.Data.List.Induction
import Mathlib.Data.List.Nodup

/-!
# Grouping

Items are taken in one after another, each into the group of its class. The first item of a class
opens a group at the end; every later one changes the group in its place.

However the classes are interleaved, the groups stand in the order in which their classes first
appear (`keys_groups`), and each group is what the items of its class alone are merged into
(`find?_groups`).
-/

namespace Disclosure

/-- How items are taken into groups. -/
structure Grouping (α β κ : Type) where
  /-- The class of an item. -/
  cls : α → κ
  /-- The class of the items in a group. -/
  key : β → κ
  /-- The group that an item opens. -/
  new : α → β
  /-- The group after a further item. -/
  change : α → β → β
  key_new : ∀ a, key (new a) = cls a
  key_change : ∀ a b, key (change a b) = key b

namespace Grouping

attribute [simp] key_new key_change

variable {α β κ : Type} (g : Grouping α β κ)

/-! ### One class -/

/-- What a list of items of one class is merged into. -/
def merged : List α → Option β
  | [] => none
  | a :: as => some (as.foldl (fun b a => g.change a b) (g.new a))

@[simp] lemma merged_nil : g.merged [] = none := rfl

lemma merged_concat (as : List α) (a : α) :
    g.merged (as ++ [a]) = some ((g.merged as).elim (g.new a) (g.change a)) := by
  cases as <;> simp [merged]

@[simp] lemma merged_eq_none_iff {as : List α} : g.merged as = none ↔ as = [] := by
  cases as <;> simp [merged]

/-! ### One item -/

variable [DecidableEq κ]

lemma eq_of_mem_filter {f : α → κ} {k : κ} {as : List α} : ∀ a ∈ as.filter (f · = k), f a = k := by
  intro a ha
  simpa using (List.mem_filter.1 ha).2

/-- Take in an item. -/
def add (a : α) : List β → List β
  | [] => [g.new a]
  | b :: bs => if g.key b = g.cls a then g.change a b :: bs else b :: add a bs

lemma keys_add (a : α) (bs : List β) :
    (g.add a bs).map g.key =
      if g.cls a ∈ bs.map g.key then bs.map g.key else bs.map g.key ++ [g.cls a] := by
  induction bs with
  | nil => simp [add]
  | cons b bs ih =>
    by_cases h : g.key b = g.cls a
    · simp [add, h]
    · have h' : ¬ g.cls a = g.key b := Ne.symm h
      simp only [add, if_neg h, List.map_cons, ih, List.mem_cons, h', false_or]
      split_ifs <;> rfl

lemma find?_add (a : α) (bs : List β) (k : κ) :
    (g.add a bs).find? (g.key · = k) =
      if g.cls a = k then some ((bs.find? (g.key · = k)).elim (g.new a) (g.change a))
      else bs.find? (g.key · = k) := by
  induction bs with
  | nil => by_cases hk : g.cls a = k <;> simp [add, hk]
  | cons b bs ih =>
    by_cases h : g.key b = g.cls a
    · by_cases hk : g.cls a = k <;> simp [add, h, hk]
    · by_cases hb : g.key b = k
      · subst hb
        have hk : ¬ g.cls a = g.key b := Ne.symm h
        simp [add, h, hk]
      · simp only [add, if_neg h, List.find?_cons, hb, decide_false, ih]

/-- A group keeps its place, and a new one comes last. -/
lemma findIdx?_add (a : α) (bs : List β) (k : κ) :
    (g.add a bs).findIdx? (g.key · = k) =
      (bs.findIdx? (g.key · = k)).or (if g.cls a = k then some bs.length else none) := by
  induction bs with
  | nil => by_cases hk : g.cls a = k <;> simp [add, hk]
  | cons b bs ih =>
    by_cases h : g.key b = g.cls a
    · by_cases hk : g.cls a = k <;> simp [add, h, hk, List.findIdx?_cons]
    · by_cases hb : g.key b = k
      · subst hb
        simp [add, h, List.findIdx?_cons]
      · rw [add, if_neg h, List.findIdx?_cons, List.findIdx?_cons, ih]
        by_cases hk : g.cls a = k <;>
          cases bs.findIdx? (g.key · = k) <;> simp [hb, hk]

lemma add_of_findIdx?_eq_none {a : α} {bs : List β}
    (h : bs.findIdx? (g.key · = g.cls a) = none) : g.add a bs = bs ++ [g.new a] := by
  induction bs with
  | nil => rfl
  | cons b bs ih =>
    have hb : ¬ g.key b = g.cls a := by simpa using List.findIdx?_eq_none_iff.1 h b (by simp)
    rw [List.findIdx?_cons] at h
    simp only [hb, decide_false, Bool.false_eq_true, if_false, Option.map_eq_none_iff] at h
    simp [add, hb, ih h]

lemma add_of_findIdx?_eq_some {a : α} {bs : List β} {i : Nat}
    (h : bs.findIdx? (g.key · = g.cls a) = some i) : g.add a bs = bs.modify i (g.change a) := by
  induction bs generalizing i with
  | nil => simp at h
  | cons b bs ih =>
    rw [List.findIdx?_cons] at h
    by_cases hb : g.key b = g.cls a
    · simp only [hb, decide_true, if_true, Option.some.injEq] at h
      simp [add, hb, ← h]
    · simp only [hb, decide_false, Bool.false_eq_true, if_false, Option.map_eq_some_iff] at h
      obtain ⟨j, hj, rfl⟩ := h
      simp [add, hb, ih hj]

lemma lookup_eq_find? (k : κ) (l : List (κ × β)) :
    l.lookup k = (l.find? (·.1 = k)).map Prod.snd := by
  induction l with
  | nil => rfl
  | cons e l ih =>
    obtain ⟨k', b⟩ := e
    by_cases h : k' = k
    · simp [h]
    · have h' : (k == k') = false := beq_eq_false_iff_ne.2 (Ne.symm h)
      simp [List.lookup_cons, h, h', ih]

/-! ### Runs -/

/-- The groups of a list of items. -/
def groups (as : List α) : List β :=
  as.foldl (fun bs a => g.add a bs) []

@[simp] lemma groups_nil : g.groups [] = [] := rfl

lemma groups_concat (as : List α) (a : α) : g.groups (as ++ [a]) = g.add a (g.groups as) := by
  simp [groups]

lemma eraseDups_concat (ks : List κ) (k : κ) :
    (ks ++ [k]).eraseDups = if k ∈ ks then ks.eraseDups else ks.eraseDups ++ [k] := by
  rw [List.eraseDups_append]
  by_cases h : k ∈ ks <;> simp [List.removeAll, List.eraseDups_cons, h]

/-- The groups stand in the order in which their classes first appear. -/
lemma keys_groups (as : List α) : (g.groups as).map g.key = (as.map g.cls).eraseDups := by
  induction as using List.reverseRecOn with
  | nil => rfl
  | append_singleton as a ih =>
    rw [groups_concat, keys_add, ih, List.map_append, List.map_singleton, eraseDups_concat]
    simp only [List.mem_eraseDups]

lemma nodup_keys_groups (as : List α) : ((g.groups as).map g.key).Nodup := by
  induction as using List.reverseRecOn with
  | nil => exact List.nodup_nil
  | append_singleton as a ih =>
    rw [groups_concat, keys_add]
    split_ifs with h
    · exact ih
    · rw [List.nodup_append]
      refine ⟨ih, by simp, fun k hk k' hk' => ?_⟩
      rintro rfl
      exact h (List.mem_singleton.1 hk' ▸ hk)

/-- The group of a class is what its items alone are merged into. -/
lemma find?_groups (as : List α) (k : κ) :
    (g.groups as).find? (g.key · = k) = g.merged (as.filter (g.cls · = k)) := by
  induction as using List.reverseRecOn with
  | nil => rfl
  | append_singleton as a ih =>
    rw [groups_concat, find?_add, ih, List.filter_append]
    by_cases hk : g.cls a = k
    · simp [hk, merged_concat]
    · simp [hk]

/-- The groups are found by their keys. -/
lemma mem_groups {as : List α} {b : β} :
    b ∈ g.groups as ↔ g.merged (as.filter (g.cls · = g.key b)) = some b := by
  rw [← find?_groups]
  constructor
  · intro hb
    obtain ⟨b', hb'⟩ : ∃ b', (g.groups as).find? (g.key · = g.key b) = some b' :=
      Option.isSome_iff_exists.1 (List.find?_isSome.2 ⟨b, hb, by simp⟩)
    have hkey : g.key b' = g.key b := by simpa using List.find?_some hb'
    rw [hb', List.inj_on_of_nodup_map (g.nodup_keys_groups as)
      (List.mem_of_find?_eq_some hb') hb hkey]
  · exact List.mem_of_find?_eq_some

/-- Groups that are pairs are found by look-up. -/
lemma lookup_groups {g : Grouping α (κ × β) κ} (hkey : g.key = Prod.fst) (as : List α) (k : κ) :
    (g.groups as).lookup k = (g.merged (as.filter (g.cls · = k))).map Prod.snd := by
  rw [lookup_eq_find?, ← find?_groups, hkey]

lemma mem_groups_iff_lookup {g : Grouping α (κ × β) κ} (hkey : g.key = Prod.fst) {as : List α}
    {e : κ × β} : e ∈ g.groups as ↔ (g.groups as).lookup e.1 = some e.2 := by
  rw [lookup_groups hkey, mem_groups, hkey, Option.map_eq_some_iff]
  constructor
  · intro h
    exact ⟨e, h, rfl⟩
  · rintro ⟨e', h, he'⟩
    have hk : e'.1 = e.1 := by
      have := (g.find?_groups as e.1).trans h
      simpa [hkey] using List.find?_some this
    rw [h, Prod.ext hk he']

end Grouping

end Disclosure
