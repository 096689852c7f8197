import Mathlib.Data.List.Nodup
import Disclosure.Json.Decode
import Disclosure.Json.Sorted

/-!
# JSON values by their parts

Induction over the items and members of a value, and properties that hold everywhere in a value, at
any depth of lists and objects. A value is regular if its objects have distinct keys and its numbers
are integers of 64 bits.
-/

namespace Disclosure.Json

variable {P : Json → Prop} {v : Json} {items : List Json} {members : Members}

lemma sizeOf_lt_of_mem_items {items : List Json} (h : v ∈ items) :
    sizeOf v < sizeOf (Json.arr items) := by
  have := List.sizeOf_lt_of_mem h
  simp only [arr.sizeOf_spec]
  omega

lemma sizeOf_lt_of_mem_members {m : String × Json} (h : m ∈ members) :
    sizeOf m.2 < sizeOf (Json.obj members) := by
  have := List.sizeOf_lt_of_mem h
  have hm : sizeOf m = 1 + sizeOf m.1 + sizeOf m.2 := by cases m; rfl
  simp only [obj.sizeOf_spec]
  omega

/-- A property holds of every value if it passes from items and members to the whole. -/
@[elab_as_elim]
theorem induct {motive : Json → Prop} (null : motive .null) (bool : ∀ b, motive (.bool b))
    (num : ∀ n, motive (.num n)) (str : ∀ s, motive (.str s))
    (arr : ∀ items, (∀ v ∈ items, motive v) → motive (.arr items))
    (obj : ∀ members : Members, (∀ m ∈ members, motive m.2) → motive (.obj members)) (v : Json) :
    motive v := by
  induction h : sizeOf v using Nat.strongRecOn generalizing v with
  | ind n ih =>
    subst h
    cases v with
    | null => exact null
    | bool b => exact bool b
    | num n => exact num n
    | str s => exact str s
    | arr items => exact arr items fun v hv => ih _ (sizeOf_lt_of_mem_items hv) v rfl
    | obj members => exact obj members fun m hm => ih _ (sizeOf_lt_of_mem_members hm) m.2 rfl

/-! ### Properties that hold everywhere -/

/-- Whether a value stands in another one, at any depth. -/
inductive Part : Json → Json → Prop
  | self (v : Json) : Part v v
  | item {items : List Json} {v w : Json} (hv : v ∈ items) (h : Part v w) : Part (.arr items) w
  | member {members : Members} {m : String × Json} {w : Json} (hm : m ∈ members) (h : Part m.2 w) :
      Part (.obj members) w

/-- Whether a property holds of a value and of everything that stands in it. -/
def Everywhere (P : Json → Prop) (v : Json) : Prop :=
  ∀ w, Part v w → P w

lemma everywhere_scalar (hitems : v.items? = none) (hmembers : v.members? = none) :
    Everywhere P v ↔ P v := by
  refine ⟨fun h => h v (.self v), fun h w hw => ?_⟩
  cases hw with
  | self => exact h
  | item => cases hitems
  | member => cases hmembers

lemma everywhere_arr :
    Everywhere P (.arr items) ↔ P (.arr items) ∧ ∀ v ∈ items, Everywhere P v := by
  constructor
  · intro h
    exact ⟨h _ (.self _), fun v hv w hw => h w (.item hv hw)⟩
  · rintro ⟨hself, hitems⟩ w hw
    cases hw with
    | self => exact hself
    | item hv hw => exact hitems _ hv w hw

lemma everywhere_obj :
    Everywhere P (.obj members) ↔ P (.obj members) ∧ ∀ m ∈ members, Everywhere P m.2 := by
  constructor
  · intro h
    exact ⟨h _ (.self _), fun m hm w hw => h w (.member hm hw)⟩
  · rintro ⟨hself, hmembers⟩ w hw
    cases hw with
    | self => exact hself
    | member hm hw => exact hmembers _ hm w hw

/-! ### Regular values -/

/-- The keys of an object, in the order in which it holds them. -/
def Members.keys (members : Members) : List String :=
  members.map (·.1)

/-- Whether the keys of an object are distinct. -/
def HasDistinctKeys : Json → Prop
  | .obj members => (Members.keys members).Nodup
  | _ => True

/-- Whether a number is an integer of 64 bits, with or without sign. -/
def HasWholeNumber : Json → Prop
  | .num n => ∃ i : Int, n = .int i ∧ -twoTo 63 ≤ i ∧ i < twoTo 64
  | _ => True

/-- A value whose objects have distinct keys, and whose numbers are integers of 64 bits. -/
structure Regular (v : Json) : Prop where
  distinct : Everywhere HasDistinctKeys v
  whole : Everywhere HasWholeNumber v

lemma Regular.num {n : Number} (h : Regular (.num n)) :
    ∃ i : Int, n = .int i ∧ -twoTo 63 ≤ i ∧ i < twoTo 64 :=
  h.whole _ (.self _)

lemma regular_scalar (hitems : v.items? = none) (hmembers : v.members? = none) :
    Regular v ↔ HasWholeNumber v := by
  constructor
  · intro h
    exact h.whole v (.self v)
  · intro h
    refine ⟨(everywhere_scalar hitems hmembers).2 ?_, (everywhere_scalar hitems hmembers).2 h⟩
    cases v <;> first | exact trivial | cases hmembers

@[simp]
lemma regular_null : Regular .null :=
  (regular_scalar rfl rfl).2 trivial

@[simp]
lemma regular_bool (b : Bool) : Regular (.bool b) :=
  (regular_scalar rfl rfl).2 trivial

@[simp]
lemma regular_str (s : String) : Regular (.str s) :=
  (regular_scalar rfl rfl).2 trivial

lemma regular_int {i : Int} :
    Regular (.num (.int i)) ↔ -twoTo 63 ≤ i ∧ i < twoTo 64 := by
  rw [regular_scalar rfl rfl, HasWholeNumber]
  simp

@[simp]
lemma regular_arr : Regular (.arr items) ↔ ∀ v ∈ items, Regular v := by
  constructor
  · intro h v hv
    exact ⟨(everywhere_arr.1 h.distinct).2 v hv, (everywhere_arr.1 h.whole).2 v hv⟩
  · intro h
    exact ⟨everywhere_arr.2 ⟨trivial, fun v hv => (h v hv).distinct⟩,
      everywhere_arr.2 ⟨trivial, fun v hv => (h v hv).whole⟩⟩

@[simp]
lemma regular_obj :
    Regular (.obj members) ↔ members.keys.Nodup ∧ ∀ m ∈ members, Regular m.2 := by
  constructor
  · intro h
    obtain ⟨hkeys, hdistinct⟩ := everywhere_obj.1 h.distinct
    exact ⟨hkeys, fun m hm => ⟨hdistinct m hm, (everywhere_obj.1 h.whole).2 m hm⟩⟩
  · rintro ⟨hkeys, hmembers⟩
    exact ⟨everywhere_obj.2 ⟨hkeys, fun m hm => (hmembers m hm).distinct⟩,
      everywhere_obj.2 ⟨trivial, fun m hm => (hmembers m hm).whole⟩⟩

/-! ### Depth -/

mutual

/-- How deep lists and objects are nested in a value. -/
def depth : Json → Nat
  | .arr items => itemsDepth items + 1
  | .obj members => membersDepth members + 1
  | _ => 0

/-- The greatest depth of an item. -/
def itemsDepth : List Json → Nat
  | [] => 0
  | v :: vs => max v.depth (itemsDepth vs)

/-- The greatest depth of the value of a member. -/
def membersDepth : List (String × Json) → Nat
  | [] => 0
  | (_, v) :: ms => max v.depth (membersDepth ms)

end

lemma itemsDepth_le_iff {d : Nat} : itemsDepth items ≤ d ↔ ∀ v ∈ items, v.depth ≤ d := by
  induction items with
  | nil => simp [itemsDepth]
  | cons v vs ih => rw [itemsDepth, Nat.max_le, ih, List.forall_mem_cons]

lemma membersDepth_le_iff {d : Nat} : membersDepth members ≤ d ↔ ∀ m ∈ members, m.2.depth ≤ d := by
  induction members with
  | nil => simp [membersDepth]
  | cons m ms ih =>
    obtain ⟨k, v⟩ := m
    rw [membersDepth, Nat.max_le, ih, List.forall_mem_cons]

/-! ### The parts of sorted values and of documents -/

lemma sortItems_eq (items : List Json) : sortItems items = items.map sorted := by
  induction items with
  | nil => rfl
  | cons v vs ih => rw [sortItems, ih, List.map_cons]

lemma sortMembers_eq (members : Members) :
    sortMembers members = members.map fun m => (m.1, m.2.sorted) := by
  induction members with
  | nil => rfl
  | cons m ms ih =>
    obtain ⟨k, v⟩ := m
    rw [sortMembers, ih, List.map_cons]

lemma itemsDoc_eq (items : List Json) : itemsDoc items = items.map toDoc := by
  induction items with
  | nil => rfl
  | cons v vs ih => rw [itemsDoc, ih, List.map_cons]

end Disclosure.Json
