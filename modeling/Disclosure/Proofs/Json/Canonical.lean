import Mathlib.Data.List.Perm.Basic
import Mathlib.Data.String.Basic
import Disclosure.Proofs.Json.Reading

/-!
# Sorted values are canonical

Sorting the keys of a value at every depth picks one value of all those that differ only in the
order of keys (`sorted_eq_iff`). The compact text of the sorted value therefore stands for all of
them, and it holds no control characters (`printable_chars`).
-/

namespace Disclosure.Json

variable {v w : Json} {items : List Json} {members members' : Members} {d : Nat}

/-! ### Members in order -/

namespace Members

/-- The members of an object in the order of their keys. -/
def inOrder (members : Members) : Members :=
  members.mergeSort fun a b => decide (a.1 ≤ b.1)

lemma inOrder_perm (members : Members) : members.inOrder.Perm members :=
  List.mergeSort_perm members _

lemma pairwise_inOrder (members : Members) :
    members.inOrder.Pairwise fun a b => a.1 ≤ b.1 := by
  have h : members.inOrder.Pairwise fun a b => decide (a.1 ≤ b.1) = true := by
    apply List.pairwise_mergeSort
    · intro a b c hab hbc
      simp only [decide_eq_true_eq] at hab hbc ⊢
      exact le_trans hab hbc
    · intro a b
      simpa using le_total a.1 b.1
  exact h.imp of_decide_eq_true

lemma inOrder_of_pairwise (h : members.Pairwise fun a b => a.1 ≤ b.1) :
    members.inOrder = members :=
  List.mergeSort_of_pairwise (h.imp decide_eq_true)

lemma nodup_keys_of_perm (h : members.Perm members') (hkeys : members.keys.Nodup) :
    members'.keys.Nodup :=
  (h.map Prod.fst).nodup_iff.1 hkeys

/-- With distinct keys, the order of the keys leaves no choice. -/
lemma inOrder_eq_iff (hkeys : members.keys.Nodup) :
    members.inOrder = members'.inOrder ↔ members.Perm members' := by
  constructor
  · intro h
    apply (inOrder_perm members).symm.trans
    rw [h]
    exact inOrder_perm members'
  · intro h
    have hperm : members.inOrder.Perm members'.inOrder :=
      (inOrder_perm members).trans (h.trans (inOrder_perm members').symm)
    refine hperm.eq_of_pairwise ?_ (pairwise_inOrder members) (pairwise_inOrder members')
    intro a b ha hb hab hba
    have hb : b ∈ members.inOrder := hperm.mem_iff.2 hb
    apply List.inj_on_of_nodup_map hkeys
    · exact (inOrder_perm members).mem_iff.1 ha
    · exact (inOrder_perm members).mem_iff.1 hb
    · exact le_antisymm hab hba

/-- The members of an object with their values sorted. -/
def sortedValues (members : Members) : Members :=
  members.map fun m => (m.1, m.2.sorted)

lemma keys_sortedValues (members : Members) : members.sortedValues.keys = members.keys := by
  simp [sortedValues, keys, Function.comp_def]

end Members

/-! ### Sorted values -/

lemma sorted_arr (items : List Json) : sorted (.arr items) = .arr (items.map sorted) := by
  rw [sorted, sortItems_eq]

lemma sorted_obj (members : Members) :
    sorted (.obj members) = .obj members.sortedValues.inOrder := by
  rw [sorted, sortMembers_eq]
  rfl

lemma mem_inOrder_sortedValues {m : String × Json} :
    m ∈ members.sortedValues.inOrder ↔ ∃ m' ∈ members, (m'.1, m'.2.sorted) = m := by
  rw [(Members.inOrder_perm _).mem_iff, Members.sortedValues, List.mem_map]

/-- Sorting a sorted value changes nothing. -/
lemma sorted_sorted (v : Json) : v.sorted.sorted = v.sorted := by
  induction v using induct with
  | null => rfl
  | bool b => rfl
  | num n => rfl
  | str s => rfl
  | arr items ih =>
    rw [sorted_arr, sorted_arr, List.map_map]
    exact congrArg Json.arr (List.map_congr_left ih)
  | obj members ih =>
    have hvalues : members.sortedValues.inOrder.sortedValues = members.sortedValues.inOrder := by
      refine (List.map_congr_left ?_).trans (List.map_id _)
      intro m hm
      obtain ⟨m', hm', rfl⟩ := mem_inOrder_sortedValues.1 hm
      rw [ih m' hm', id]
    rw [sorted_obj, sorted_obj, hvalues,
      Members.inOrder_of_pairwise (Members.pairwise_inOrder members.sortedValues)]

/-- The parts of a sorted value are the sorted parts of the value. -/
lemma Everywhere.sorted {P Q : Json → Prop} (h : Everywhere P v)
    (himp : ∀ u, P u → Q u.sorted) : Everywhere Q v.sorted := by
  have hself : Q v.sorted := himp v (h v (.self v))
  induction v using induct with
  | null => exact (everywhere_scalar rfl rfl).2 hself
  | bool b => exact (everywhere_scalar rfl rfl).2 hself
  | num n => exact (everywhere_scalar rfl rfl).2 hself
  | str s => exact (everywhere_scalar rfl rfl).2 hself
  | arr items ih =>
    obtain ⟨-, hitems⟩ := everywhere_arr.1 h
    rw [sorted_arr] at hself ⊢
    refine everywhere_arr.2 ⟨hself, fun w hw => ?_⟩
    obtain ⟨u, hu, rfl⟩ := List.mem_map.1 hw
    exact ih u hu (hitems u hu) (himp u (hitems u hu u (.self u)))
  | obj members ih =>
    obtain ⟨-, hmembers⟩ := everywhere_obj.1 h
    rw [sorted_obj] at hself ⊢
    refine everywhere_obj.2 ⟨hself, fun m hm => ?_⟩
    obtain ⟨m', hm', rfl⟩ := mem_inOrder_sortedValues.1 hm
    exact ih m' hm' (hmembers m' hm') (himp m'.2 (hmembers m' hm' m'.2 (.self _)))

/-- Whether the keys of an object increase by code points. -/
def HasIncreasingKeys : Json → Prop
  | .obj members => (Members.keys members).Pairwise (· < ·)
  | _ => True

lemma HasDistinctKeys.increasing (h : HasDistinctKeys v) : HasIncreasingKeys v.sorted := by
  cases v with
  | obj members =>
    rw [HasDistinctKeys, ← Members.keys_sortedValues] at h
    have hnodup := Members.nodup_keys_of_perm (Members.inOrder_perm _).symm h
    have hle : (Members.keys (Members.sortedValues members).inOrder).Pairwise (· ≤ ·) :=
      (Members.pairwise_inOrder _).map Prod.fst fun _ _ h => h
    rw [sorted_obj, HasIncreasingKeys]
    exact (hle.and hnodup).imp fun h => lt_of_le_of_ne h.1 h.2
  | _ => trivial

lemma HasIncreasingKeys.distinct (h : HasIncreasingKeys v) : HasDistinctKeys v := by
  cases v with
  | obj members => exact h.imp ne_of_lt
  | _ => trivial

lemma HasWholeNumber.sorted (h : HasWholeNumber v) : HasWholeNumber v.sorted := by
  cases v with
  | num n => exact h
  | _ => trivial

lemma Regular.sorted (hv : Regular v) : Regular v.sorted where
  distinct := hv.distinct.sorted fun _ h => h.increasing.distinct
  whole := hv.whole.sorted fun _ => HasWholeNumber.sorted

lemma Regular.increasing (hv : Regular v) : Everywhere HasIncreasingKeys v.sorted :=
  hv.distinct.sorted fun _ => HasDistinctKeys.increasing

/-- Sorting does not nest lists and objects any deeper. -/
lemma depth_sorted_le (hd : v.depth ≤ d) : v.sorted.depth ≤ d := by
  induction v using induct generalizing d with
  | null => exact hd
  | bool b => exact hd
  | num n => exact hd
  | str s => exact hd
  | arr items ih =>
    cases d with
    | zero => cases hd
    | succ d =>
      have hitems := itemsDepth_le_iff.1 (Nat.le_of_succ_le_succ hd)
      rw [sorted_arr, depth]
      apply Nat.succ_le_succ
      apply itemsDepth_le_iff.2
      intro w hw
      obtain ⟨v, hv, rfl⟩ := List.mem_map.1 hw
      exact ih v hv (hitems v hv)
  | obj members ih =>
    cases d with
    | zero => cases hd
    | succ d =>
      have hmembers := membersDepth_le_iff.1 (Nat.le_of_succ_le_succ hd)
      rw [sorted_obj, depth]
      apply Nat.succ_le_succ
      apply membersDepth_le_iff.2
      intro m hm
      obtain ⟨m', hm', rfl⟩ := mem_inOrder_sortedValues.1 hm
      exact ih m' hm' (hmembers m' hm')

/-! ### Equality up to the order of keys -/

/--
Whether two values are equal up to the order of keys at every depth: the members of one object can
be reordered so that they have the keys of the other one, with values that are alike.
-/
inductive Alike : Json → Json → Prop
  | null : Alike .null .null
  | bool (b : Bool) : Alike (.bool b) (.bool b)
  | num (n : Number) : Alike (.num n) (.num n)
  | str (s : String) : Alike (.str s) (.str s)
  | arr {items items' : List Json} (h : List.Forall₂ Alike items items') :
      Alike (.arr items) (.arr items')
  | obj {members reordered members' : Members} (hperm : reordered.Perm members')
      (hkeys : members.keys = reordered.keys)
      (hvalues : List.Forall₂ Alike (members.map (·.2)) (reordered.map (·.2))) :
      Alike (.obj members) (.obj members')

lemma Alike.obj_iff {members members' : Members} :
    Alike (.obj members) (.obj members') ↔ ∃ reordered : Members, reordered.Perm members' ∧
      members.keys = reordered.keys ∧
        List.Forall₂ Alike (members.map (·.2)) (reordered.map (·.2)) := by
  constructor
  · rintro (_ | _ | _ | _ | _ | ⟨hperm, hkeys, hvalues⟩)
    exact ⟨_, hperm, hkeys, hvalues⟩
  · rintro ⟨reordered, hperm, hkeys, hvalues⟩
    exact .obj hperm hkeys hvalues

lemma map_sorted_eq_iff {vs ws : List Json}
    (hvs : ∀ v ∈ vs, ∀ w, v.sorted = w.sorted ↔ Alike v w) :
    vs.map sorted = ws.map sorted ↔ List.Forall₂ Alike vs ws := by
  induction vs generalizing ws with
  | nil => simp [eq_comm]
  | cons v vs ih =>
    obtain ⟨hv, hvs⟩ := List.forall_mem_cons.1 hvs
    cases ws with
    | nil => simp
    | cons w ws => simp [hv w, ih hvs]

namespace Members

lemma sortedValues_eq_iff : members.sortedValues = members'.sortedValues ↔
    members.keys = members'.keys ∧
      (members.map (·.2)).map sorted = (members'.map (·.2)).map sorted := by
  induction members generalizing members' with
  | nil => cases members' <;> simp [sortedValues, keys]
  | cons m ms ih =>
    cases members' with
    | nil => simp [sortedValues, keys]
    | cons m' ms' =>
      have ih := @ih ms'
      simp only [sortedValues, keys, List.map_cons, List.cons.injEq, Prod.mk.injEq] at ih ⊢
      rw [ih]
      tauto

lemma perm_sortedValues_iff : members.sortedValues.Perm members'.sortedValues ↔
    ∃ reordered : Members, reordered.Perm members' ∧
      members.sortedValues = reordered.sortedValues := by
  have h := congrFun₂ (List.eq_map_comp_perm fun m : String × Json => (m.1, m.2.sorted))
    members.sortedValues members'
  exact (Iff.of_eq h).symm.trans (exists_congr fun _ => and_comm)

end Members

lemma sorted_eq_iff_of_scalar (hitems : v.items? = none) (hmembers : v.members? = none) :
    v.sorted = w.sorted ↔ Alike v w := by
  cases v with
  | arr items => cases hitems
  | obj members => cases hmembers
  | _ =>
    constructor
    · intro h
      cases w <;> simp [sorted] at h
      subst_vars
      constructor
    · rintro ⟨⟩
      rfl

/-- Values have the same sorted value just if they are equal up to the order of keys. -/
lemma sorted_eq_iff (hv : Regular v) : v.sorted = w.sorted ↔ Alike v w := by
  induction v using induct generalizing w with
  | null => exact sorted_eq_iff_of_scalar rfl rfl
  | bool b => exact sorted_eq_iff_of_scalar rfl rfl
  | num n => exact sorted_eq_iff_of_scalar rfl rfl
  | str s => exact sorted_eq_iff_of_scalar rfl rfl
  | arr items ih =>
    have hitems := regular_arr.1 hv
    cases w with
    | arr items' =>
      rw [sorted_arr, sorted_arr, arr.injEq, map_sorted_eq_iff fun v h w => ih v h (hitems v h)]
      exact ⟨.arr, fun | .arr h => h⟩
    | _ => exact ⟨by simp [sorted], by rintro ⟨⟩⟩
  | obj members ih =>
    obtain ⟨hkeys, hmembers⟩ := regular_obj.1 hv
    cases w with
    | obj members' =>
      have hvalues : ∀ v ∈ members.map (·.2), ∀ w, v.sorted = w.sorted ↔ Alike v w := by
        intro v hv w
        obtain ⟨m, hm, rfl⟩ := List.mem_map.1 hv
        exact ih m hm (hmembers m hm)
      rw [← Members.keys_sortedValues] at hkeys
      rw [sorted_obj, sorted_obj, obj.injEq, Members.inOrder_eq_iff hkeys,
        Members.perm_sortedValues_iff, Alike.obj_iff]
      simp only [Members.sortedValues_eq_iff, map_sorted_eq_iff hvalues]
    | _ => exact ⟨by simp [sorted], by rintro ⟨⟩⟩

lemma alike_sorted (hv : Regular v) : Alike v v.sorted :=
  (sorted_eq_iff hv).1 (sorted_sorted v).symm

/-! ### Control characters -/

/-- Whether a text holds no control characters: nothing below the space. -/
def Printable (s : List Char) : Prop :=
  ∀ c ∈ s, 32 ≤ c.toNat

lemma printable_cons {c : Char} {s : List Char} :
    Printable (c :: s) ↔ 32 ≤ c.toNat ∧ Printable s :=
  List.forall_mem_cons

lemma printable_append {s t : List Char} : Printable (s ++ t) ↔ Printable s ∧ Printable t :=
  List.forall_mem_append

lemma printable_nil : Printable [] :=
  List.forall_mem_nil _

lemma le_hexDigit {n : Nat} (h : n < 16) : 32 ≤ (hexDigit n).toNat := by
  have : ∀ n < 16, 32 ≤ (hexDigit n).toNat := by decide
  exact this n h

lemma Written.printable {c : Char} {s : List Char} (h : Written c s) : Printable s := by
  cases h with
  | plain hlow => simpa [Printable] using hlow
  | short _ _ hlow => simpa [Printable] using hlow
  | number hlow =>
    have hhigh : 32 ≤ (hexDigit (c.toNat / 16)).toNat := le_hexDigit (by omega)
    have hlow : 32 ≤ (hexDigit (c.toNat % 16)).toNat := le_hexDigit (by omega)
    simp [Printable, hhigh, hlow]

lemma printable_quote (s : String) : Printable (quote s) := by
  have hs : Printable (s.toList.flatMap escape) := by
    intro c hc
    obtain ⟨d, -, hd⟩ := List.mem_flatMap.1 hc
    exact (written_escape d).printable c hd
  simpa [quote, printable_cons, printable_append, printable_nil] using hs

lemma printable_decimalDigits (n : Nat) : Printable (decimalDigits n) := by
  intro c hc
  have h := isDigit_of_mem_decimalDigits hc
  simp only [isDigit, Bool.and_eq_true, decide_eq_true_eq] at h
  omega

lemma printable_integerText (i : Int) : Printable (integerText i) := by
  cases i with
  | ofNat n => exact printable_decimalDigits n
  | negSucc n =>
    rw [integerText, printable_cons]
    exact ⟨by decide, printable_decimalDigits (n + 1)⟩

lemma printable_itemsChars (h : ∀ v ∈ items, Printable v.chars) :
    Printable (itemsChars items) := by
  induction items with
  | nil => exact printable_nil
  | cons v vs ih =>
    obtain ⟨hv, hvs⟩ := List.forall_mem_cons.1 h
    cases vs with
    | nil => exact hv
    | cons w ws =>
      rw [itemsChars, printable_append, printable_cons]
      exact ⟨hv, by decide, ih hvs⟩

lemma printable_membersChars (h : ∀ m ∈ members, Printable m.2.chars) :
    Printable (membersChars members) := by
  induction members with
  | nil => exact printable_nil
  | cons m ms ih =>
    obtain ⟨k, v⟩ := m
    obtain ⟨hv, hms⟩ := List.forall_mem_cons.1 h
    cases ms with
    | nil =>
      rw [membersChars, printable_append, printable_cons]
      exact ⟨printable_quote k, by decide, hv⟩
    | cons m' ms =>
      rw [membersChars, printable_append, printable_cons, printable_append, printable_cons]
      exact ⟨printable_quote k, by decide, hv, by decide, ih hms⟩

/-- The text of a regular value holds no control characters. -/
lemma printable_chars (hv : Regular v) : Printable v.chars := by
  induction v using induct with
  | null => simp [Printable, chars]
  | bool b => cases b <;> simp [Printable, chars]
  | num n =>
    obtain ⟨i, rfl, -, -⟩ := hv.num
    exact printable_integerText i
  | str s => exact printable_quote s
  | arr items ih =>
    have hitems := regular_arr.1 hv
    rw [chars, printable_cons, printable_append]
    refine ⟨by decide, printable_itemsChars fun v h => ih v h (hitems v h), ?_⟩
    simp [Printable]
  | obj members ih =>
    have hmembers := (regular_obj.1 hv).2
    rw [chars, printable_cons, printable_append]
    refine ⟨by decide, printable_membersChars fun m h => ih m h (hmembers m h), ?_⟩
    simp [Printable]

end Disclosure.Json
