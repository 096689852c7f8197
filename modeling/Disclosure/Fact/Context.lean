import Disclosure.Calendar.Date
import Disclosure.Fact.Concept

/-!
# Contexts

The period that a fact is about, and its members on the axes that it is broken down by. An axis
occurs at most once, and axes stand in order, so that contexts are equal when they say the same.
-/

namespace Disclosure

/-- What a fact is broken down to on an axis. -/
inductive Member where
  | explicit (concept : Concept)
  /-- A value without a concept, by its text. -/
  | typed (text : String)
deriving DecidableEq

/-- A member on an axis. -/
structure Dimension where
  axis : Concept
  member : Member
deriving DecidableEq

/-- The time that a fact is about. -/
inductive Period where
  | instant (date : Date)
  | duration (start stop : Date)
  | forever
deriving DecidableEq

/-- Whether dimensions stand in the order of their axes, without repetition. -/
def Dimension.Ordered (dims : List Dimension) : Prop :=
  dims.Pairwise fun a b => a.axis < b.axis

/-- A period with dimensions. -/
structure Context where
  period : Period
  dims : List Dimension
  ordered : Dimension.Ordered dims
deriving DecidableEq

namespace Dimension

/-! ### Sorting -/

/-- Whether dimensions stand in the order of their axes. An axis may be repeated. -/
def Sorted (dims : List Dimension) : Prop :=
  dims.Pairwise fun a b => ¬ b.axis < a.axis

/-- Put a dimension in front of those whose axes do not come before its own. -/
def settle (d : Dimension) : List Dimension → List Dimension
  | [] => [d]
  | e :: es => if e.axis < d.axis then e :: settle d es else d :: e :: es

/-- Dimensions in the order of their axes. Those on one axis keep their order. -/
def sort (dims : List Dimension) : List Dimension :=
  dims.foldr settle []

@[simp] theorem mem_settle {d x : Dimension} {dims : List Dimension} :
    x ∈ settle d dims ↔ x = d ∨ x ∈ dims := by
  induction dims with
  | nil => simp [settle]
  | cons e es ih =>
    unfold settle
    split
    · simp [ih, or_left_comm]
    · simp

theorem sorted_settle (d : Dimension) {dims : List Dimension} (h : Sorted dims) :
    Sorted (settle d dims) := by
  induction dims with
  | nil => exact List.pairwise_singleton _ _
  | cons e es ih =>
    have he := List.pairwise_cons.1 h
    unfold settle
    split
    next hlt =>
      refine List.pairwise_cons.2 ⟨fun x hx => ?_, ih he.2⟩
      rcases mem_settle.1 hx with rfl | hx
      · exact fun hgt => Concept.lt_irrefl _ (Concept.lt_trans hlt hgt)
      · exact he.1 x hx
    next hnot =>
      refine List.pairwise_cons.2 ⟨fun x hx => ?_, h⟩
      rcases List.mem_cons.1 hx with rfl | hx
      · exact hnot
      · exact Concept.not_lt_trans hnot (he.1 x hx)

theorem sorted_sort (dims : List Dimension) : Sorted (sort dims) := by
  induction dims with
  | nil => exact .nil
  | cons d ds ih => exact sorted_settle d ih

/-! ### One dimension for an axis -/

/-- Append a dimension. It takes the place of the last one if that is on the same axis. -/
def enter (done : List Dimension) (d : Dimension) : List Dimension :=
  match done.getLast? with
  | some last => if last.axis = d.axis then done.dropLast ++ [d] else done ++ [d]
  | none => [d]

/-- Of neighbours on one axis, keep the last. -/
def keepLast (dims : List Dimension) : List Dimension :=
  dims.foldl enter []

@[simp] theorem enter_nil (d : Dimension) : enter [] d = [d] := rfl

theorem enter_concat (done : List Dimension) (last d : Dimension) :
    enter (done ++ [last]) d =
      if last.axis = d.axis then done ++ [d] else done ++ [last] ++ [d] := by
  simp [enter]

theorem mem_of_mem_enter {done : List Dimension} {d x : Dimension} (h : x ∈ enter done d) :
    x = d ∨ x ∈ done := by
  rcases List.eq_nil_or_concat done with rfl | ⟨done, last, rfl⟩
  · exact .inl (List.mem_singleton.1 h)
  · rw [List.concat_eq_append, enter_concat] at h
    rw [List.concat_eq_append]
    split at h
    · rcases List.mem_append.1 h with h | h
      · exact .inr (List.mem_append_left _ h)
      · exact .inl (List.mem_singleton.1 h)
    · rcases List.mem_append.1 h with h | h
      · exact .inr h
      · exact .inl (List.mem_singleton.1 h)

theorem ordered_enter {done : List Dimension} {d : Dimension} (h : Ordered done)
    (hle : ∀ e ∈ done, ¬ d.axis < e.axis) : Ordered (enter done d) := by
  rcases List.eq_nil_or_concat done with rfl | ⟨done, last, rfl⟩
  · exact List.pairwise_singleton _ _
  · rw [List.concat_eq_append] at h hle ⊢
    obtain ⟨hdone, -, hlast⟩ := List.pairwise_append.1 h
    rw [enter_concat]
    split
    next heq =>
      refine List.pairwise_append.2 ⟨hdone, List.pairwise_singleton _ _, fun e he x hx => ?_⟩
      rw [List.mem_singleton.1 hx, ← heq]
      exact hlast e he last (List.mem_singleton_self last)
    next hne =>
      refine List.pairwise_append.2 ⟨h, List.pairwise_singleton _ _, fun e he x hx => ?_⟩
      rw [List.mem_singleton.1 hx]
      have hlt : last.axis < d.axis := Concept.lt_of_not_lt_of_ne (hle last (by simp)) (Ne.symm hne)
      rcases List.mem_append.1 he with he | he
      · exact Concept.lt_trans (hlast e he last (List.mem_singleton_self last)) hlt
      · rwa [List.mem_singleton.1 he]

theorem ordered_foldl_enter {done dims : List Dimension} (hdone : Ordered done)
    (hdims : Sorted dims) (hle : ∀ e ∈ done, ∀ d ∈ dims, ¬ d.axis < e.axis) :
    Ordered (dims.foldl enter done) := by
  induction dims generalizing done with
  | nil => exact hdone
  | cons d ds ih =>
    have hd := List.pairwise_cons.1 hdims
    apply ih (ordered_enter hdone fun e he => hle e he d List.mem_cons_self) hd.2
    intro e he x hx
    rcases mem_of_mem_enter he with rfl | he
    · exact hd.1 x hx
    · exact hle e he x (List.mem_cons_of_mem d hx)

theorem ordered_keepLast {dims : List Dimension} (h : Sorted dims) : Ordered (keepLast dims) :=
  ordered_foldl_enter .nil h fun _ he => nomatch he

/-! ### Search -/

/-- The dimension on an axis, by halving dimensions that stand in the order of their axes. -/
def search? (axis : Concept) (dims : List Dimension) : Option Dimension :=
  match h : dims.drop (dims.length / 2) with
  | [] => none
  | d :: back =>
    if d.axis < axis then search? axis back
    else if axis < d.axis then search? axis (dims.take (dims.length / 2))
    else some d
termination_by dims.length
decreasing_by
  all_goals
    have hlength := congrArg List.length h
    simp only [List.length_drop, List.length_cons, List.length_take] at hlength ⊢
    omega

end Dimension

namespace Context

/-- A context without dimensions. -/
def ofPeriod (period : Period) : Context := ⟨period, [], .nil⟩

/-- The context of declared dimensions, in any order. The last declaration of an axis counts. -/
def ofDimensions (period : Period) (dims : List Dimension) : Context where
  period := period
  dims := Dimension.keepLast (Dimension.sort dims)
  ordered := Dimension.ordered_keepLast (Dimension.sorted_sort dims)

/-- Whether there are no dimensions. -/
def isDimensionless (c : Context) : Bool :=
  c.dims.isEmpty

/-- The member on an axis. -/
def member? (c : Context) (axis : Concept) : Option Member :=
  (Dimension.search? axis c.dims).map (·.member)

end Context

end Disclosure
