import Mathlib.Data.List.Induction
import Mathlib.Data.List.Nodup
import Disclosure.Fact.Context

/-!
# Contexts from their dimensions

Dimensions may be declared in any order, and an axis more than once. Sorting leaves the declarations
of an axis in their order (`filter_sort`), so that the last of them comes last among its neighbours
and is kept (`mem_keepLast_iff`); the search by halves finds what is kept (`search?_eq_some_iff`).
A context thus gives every axis the member declared last, and its period and members determine it
(`ofDimensions_lastDeclared`). In particular it is made again from its own dimensions, in whatever
order and after whatever division into parts they are declared (`ofDimensions_of_perm`,
`ofDimensions_parts`).
-/

namespace Disclosure

open scoped List

namespace Dimension

/-- Whether the last declaration of an axis gives it a member. -/
def LastDeclares (dims : List Dimension) (axis : Concept) (m : Member) : Prop :=
  ∃ front back, dims = front ++ ⟨axis, m⟩ :: back ∧ ∀ d ∈ back, d.axis ≠ axis

variable {axis : Concept} {m : Member} {d x : Dimension} {dims done : List Dimension}

lemma lastDeclares_iff_getLast? :
    LastDeclares dims axis m ↔ (dims.filter (·.axis = axis)).getLast? = some ⟨axis, m⟩ := by
  rw [List.getLast?_filter, List.find?_eq_some_iff_append]
  simp only [decide_true, true_and]
  constructor
  · rintro ⟨front, back, rfl, hback⟩
    refine ⟨back.reverse, front.reverse, by simp, fun d hd => ?_⟩
    simpa using hback d (List.mem_reverse.1 hd)
  · rintro ⟨back, front, hdims, hback⟩
    refine ⟨front.reverse, back.reverse, ?_, fun d hd => ?_⟩
    · rw [← List.reverse_reverse dims, hdims]
      simp
    · simpa using hback d (List.mem_reverse.1 hd)

lemma LastDeclares.mem (h : LastDeclares dims axis m) : ⟨axis, m⟩ ∈ dims := by
  obtain ⟨front, back, rfl, -⟩ := h
  simp

/-- Of different axes, each declaration is the last. -/
lemma lastDeclares_iff_mem (h : (dims.map (·.axis)).Nodup) :
    LastDeclares dims axis m ↔ ⟨axis, m⟩ ∈ dims := by
  constructor
  · exact LastDeclares.mem
  · intro hmem
    obtain ⟨front, back, rfl⟩ := List.append_of_mem hmem
    refine ⟨front, back, rfl, fun d hd heq => ?_⟩
    rw [List.map_append, List.map_cons] at h
    have hnot := (List.nodup_cons.1 (List.nodup_append.1 h).2.1).1
    exact hnot (List.mem_map.2 ⟨d, hd, heq⟩)

/-! ### Sorting -/

lemma filter_settle : (settle d dims).filter (·.axis = axis) =
    (d :: dims).filter (·.axis = axis) := by
  induction dims with
  | nil => rfl
  | cons e es ih =>
    rw [settle]
    split_ifs with hlt
    · -- both are on the axis only if their axes are equal
      by_cases he : e.axis = axis
      · have hd : d.axis ≠ axis := by
          rintro rfl
          rw [he] at hlt
          exact Concept.lt_irrefl _ hlt
        simp [he, hd, ih]
      · simp [List.filter_cons, he, ih]
    · rfl

/-- Sorting is stable: the dimensions on an axis keep their order. -/
lemma filter_sort (dims : List Dimension) (axis : Concept) :
    (sort dims).filter (·.axis = axis) = dims.filter (·.axis = axis) := by
  induction dims with
  | nil => rfl
  | cons d ds ih =>
    change (settle d (sort ds)).filter (·.axis = axis) = _
    rw [filter_settle, List.filter_cons, List.filter_cons, ih]

lemma Ordered.nodup_axes (h : Ordered dims) : (dims.map (·.axis)).Nodup := by
  rw [List.Nodup, List.pairwise_map]
  refine h.imp fun {a b} hlt heq => ?_
  rw [heq] at hlt
  exact Concept.lt_irrefl _ hlt

/-- Of the same dimensions there is only one ordered list. -/
lemma Ordered.eq_of_mem_iff {dims' : List Dimension} (h : Ordered dims) (h' : Ordered dims')
    (hmem : ∀ d, d ∈ dims ↔ d ∈ dims') : dims = dims' := by
  have hperm : dims ~ dims' :=
    (List.perm_ext_iff_of_nodup h.nodup_axes.of_map h'.nodup_axes.of_map).2 hmem
  refine List.Perm.eq_of_pairwise (fun a b _ _ hab hba => ?_) h h' hperm
  exact absurd (Concept.lt_trans hab hba) (Concept.lt_irrefl _)

/-! ### One dimension for an axis -/

lemma mem_enter_iff (h : Ordered done) (hle : ∀ e ∈ done, ¬ d.axis < e.axis) :
    x ∈ enter done d ↔ x = d ∨ x ∈ done ∧ x.axis ≠ d.axis := by
  rcases List.eq_nil_or_concat done with rfl | ⟨done, last, rfl⟩
  · simp
  · rw [List.concat_eq_append] at h hle ⊢
    have hlast : ∀ e ∈ done, e.axis < last.axis :=
      fun e he => (List.pairwise_append.1 h).2.2 e he last (List.mem_singleton_self last)
    have hne : ∀ e ∈ done, e.axis ≠ d.axis := by
      intro e he heq
      apply hle last (by simp)
      rw [← heq]
      exact hlast e he
    rw [enter_concat]
    split_ifs with heq
    · simp only [List.mem_append, List.mem_singleton]
      constructor
      · rintro (hx | hx)
        · exact .inr ⟨.inl hx, hne x hx⟩
        · exact .inl hx
      · rintro (hx | ⟨hx | rfl, hxd⟩)
        · exact .inr hx
        · exact .inl hx
        · exact absurd heq hxd
    · simp only [List.mem_append, List.mem_singleton]
      constructor
      · rintro ((hx | rfl) | hx)
        · exact .inr ⟨.inl hx, hne x hx⟩
        · exact .inr ⟨.inr rfl, heq⟩
        · exact .inl hx
      · rintro (hx | ⟨hx, -⟩)
        · exact .inr hx
        · exact .inl hx

lemma keepLast_concat (dims : List Dimension) (d : Dimension) :
    keepLast (dims ++ [d]) = enter (keepLast dims) d := by
  simp [keepLast]

lemma mem_of_mem_keepLast (h : x ∈ keepLast dims) : x ∈ dims := by
  induction dims using List.reverseRecOn with
  | nil => exact h
  | append_singleton dims d ih =>
    rw [keepLast_concat] at h
    rcases mem_of_mem_enter h with rfl | h
    · simp
    · exact List.mem_append_left _ (ih h)

/-- What is kept of sorted dimensions is the last one on every axis. -/
lemma mem_keepLast_iff (h : Sorted dims) :
    x ∈ keepLast dims ↔ (dims.filter (·.axis = x.axis)).getLast? = some x := by
  induction dims using List.reverseRecOn with
  | nil => simp [keepLast]
  | append_singleton dims d ih =>
    obtain ⟨hdims, -, hle⟩ := List.pairwise_append.1 h
    have hkept : ∀ e ∈ keepLast dims, ¬ d.axis < e.axis :=
      fun e he => hle e (mem_of_mem_keepLast he) d (List.mem_singleton_self d)
    rw [keepLast_concat, mem_enter_iff (ordered_keepLast hdims) hkept, List.filter_append,
      ih hdims]
    by_cases hx : d.axis = x.axis
    · simp [hx, eq_comm]
    · have hne : x ≠ d := fun heq => hx (heq ▸ rfl)
      simp [hx, hne, Ne.symm hx]

/-! ### Search -/

section Halves

variable {front back : List Dimension} {e : Dimension}

lemma Ordered.mem_back_iff (h : Ordered (front ++ e :: back)) (hlt : e.axis < axis) :
    d ∈ front ++ e :: back ∧ d.axis = axis ↔ d ∈ back ∧ d.axis = axis := by
  constructor
  · rintro ⟨hd, rfl⟩
    rcases List.mem_append.1 hd with hd | hd
    · have hde : d.axis < e.axis := (List.pairwise_append.1 h).2.2 d hd e List.mem_cons_self
      exact absurd (Concept.lt_trans hlt hde) (Concept.lt_irrefl _)
    · rcases List.mem_cons.1 hd with rfl | hd
      · exact absurd hlt (Concept.lt_irrefl _)
      · exact ⟨hd, rfl⟩
  · rintro ⟨hd, haxis⟩
    exact ⟨List.mem_append_right _ (List.mem_cons_of_mem e hd), haxis⟩

lemma Ordered.mem_front_iff (h : Ordered (front ++ e :: back)) (hlt : axis < e.axis) :
    d ∈ front ++ e :: back ∧ d.axis = axis ↔ d ∈ front ∧ d.axis = axis := by
  constructor
  · rintro ⟨hd, rfl⟩
    rcases List.mem_append.1 hd with hd | hd
    · exact ⟨hd, rfl⟩
    · rcases List.mem_cons.1 hd with rfl | hd
      · exact absurd hlt (Concept.lt_irrefl _)
      · have hed : e.axis < d.axis :=
          (List.pairwise_cons.1 (List.pairwise_append.1 h).2.1).1 d hd
        exact absurd (Concept.lt_trans hlt hed) (Concept.lt_irrefl _)
  · rintro ⟨hd, haxis⟩
    exact ⟨List.mem_append_left _ hd, haxis⟩

end Halves

/-- In ordered dimensions the search finds the one on the axis. -/
lemma search?_eq_some_iff (h : Ordered dims) :
    search? axis dims = some d ↔ d ∈ dims ∧ d.axis = axis := by
  fun_induction search? axis dims with
  | case1 dims hdrop =>
    have hnil : dims = [] := by
      have hlength := congrArg List.length hdrop
      rw [List.length_drop, List.length_nil] at hlength
      apply List.length_eq_zero_iff.1
      omega
    simp [hnil]
  | case2 dims e back hdrop hlt ih =>
    rw [← List.take_append_drop (dims.length / 2) dims, hdrop] at h ⊢
    rw [h.mem_back_iff hlt]
    exact ih (List.pairwise_cons.1 (List.pairwise_append.1 h).2.1).2
  | case3 dims e back hdrop _ hlt ih =>
    have hsplit : dims.take (dims.length / 2) ++ e :: back = dims := by
      rw [← hdrop, List.take_append_drop]
    rw [← hsplit] at h
    rw [ih (List.pairwise_append.1 h).1, ← h.mem_front_iff hlt, hsplit]
  | case4 dims e back hdrop hlt hgt =>
    have he : e ∈ dims := List.mem_of_mem_drop (hdrop ▸ List.mem_cons_self)
    have haxis : e.axis = axis := by
      by_contra hne
      exact hgt (Concept.lt_of_not_lt_of_ne hlt hne)
    rw [Option.some.injEq]
    constructor
    · rintro rfl
      exact ⟨he, haxis⟩
    · rintro ⟨hd, hdaxis⟩
      exact List.inj_on_of_nodup_map h.nodup_axes he hd (haxis.trans hdaxis.symm)

end Dimension

namespace Context

open Dimension (LastDeclares)

variable {period : Period} {dims dims' : List Dimension} {axis : Concept} {m : Member}

/-! ### Members -/

lemma member?_eq_some_iff {c : Context} : c.member? axis = some m ↔ ⟨axis, m⟩ ∈ c.dims := by
  rw [member?, Option.map_eq_some_iff]
  constructor
  · rintro ⟨d, hd, rfl⟩
    obtain ⟨hmem, rfl⟩ := (Dimension.search?_eq_some_iff c.ordered).1 hd
    exact hmem
  · intro hmem
    exact ⟨_, (Dimension.search?_eq_some_iff c.ordered).2 ⟨hmem, rfl⟩, rfl⟩

/-- Contexts are equal if they say the same. -/
lemma eq_iff_member? {c c' : Context} :
    c = c' ↔ c.period = c'.period ∧ ∀ axis, c.member? axis = c'.member? axis := by
  constructor
  · rintro rfl
    exact ⟨rfl, fun _ => rfl⟩
  · rintro ⟨hperiod, hmember⟩
    have hdims : c.dims = c'.dims := by
      apply c.ordered.eq_of_mem_iff c'.ordered
      intro d
      rw [← member?_eq_some_iff (m := d.member), hmember, member?_eq_some_iff]
    cases c
    cases c'
    cases hperiod
    cases hdims
    rfl

/-- A context gives an axis the member declared last. -/
lemma member?_ofDimensions :
    (ofDimensions period dims).member? axis = some m ↔ LastDeclares dims axis m := by
  rw [member?_eq_some_iff, Dimension.lastDeclares_iff_getLast?, ← Dimension.filter_sort]
  exact Dimension.mem_keepLast_iff (Dimension.sorted_sort dims)

lemma ofDimensions_congr
    (h : ∀ axis m, LastDeclares dims axis m ↔ LastDeclares dims' axis m) :
    ofDimensions period dims = ofDimensions period dims' := by
  rw [eq_iff_member?]
  refine ⟨rfl, fun axis => Option.ext fun m => ?_⟩
  rw [member?_ofDimensions, member?_ofDimensions, h]

/-- Dimensions on different axes may be declared in any order. -/
lemma ofDimensions_eq_of_perm (h : dims ~ dims') (hnodup : (dims.map (·.axis)).Nodup) :
    ofDimensions period dims = ofDimensions period dims' := by
  apply ofDimensions_congr
  intro axis m
  have hnodup' : (dims'.map (·.axis)).Nodup := (h.map _).nodup_iff.1 hnodup
  rw [Dimension.lastDeclares_iff_mem hnodup, Dimension.lastDeclares_iff_mem hnodup', h.mem_iff]

/-! ### Contexts from their own dimensions -/

lemma ofDimensions_dims (c : Context) : ofDimensions c.period c.dims = c := by
  rw [eq_iff_member?]
  refine ⟨rfl, fun axis => Option.ext fun m => ?_⟩
  rw [member?_ofDimensions, member?_eq_some_iff,
    Dimension.lastDeclares_iff_mem c.ordered.nodup_axes]

/-- A context is made again from its dimensions in any order. -/
theorem ofDimensions_of_perm {c : Context} (h : dims ~ c.dims) :
    ofDimensions c.period dims = c := by
  rw [← ofDimensions_eq_of_perm h.symm c.ordered.nodup_axes, ofDimensions_dims]

/-- A context is made again from the dimensions on some axes after those on the others. -/
lemma ofDimensions_parts (c : Context) (covers : Dimension → Bool) :
    ofDimensions c.period (c.dims.filter (!covers ·) ++ c.dims.filter covers) = c := by
  apply ofDimensions_of_perm
  calc c.dims.filter (!covers ·) ++ c.dims.filter covers
      ~ c.dims.filter covers ++ c.dims.filter (!covers ·) := List.perm_append_comm
    _ ~ c.dims := List.filter_append_perm covers c.dims

/-! ### Declarations -/

lemma member?_ofDimensions_eq_none_iff :
    (ofDimensions period dims).member? axis = none ↔ ∀ d ∈ dims, d.axis ≠ axis := by
  rw [Option.eq_none_iff_forall_ne_some]
  simp only [ne_eq, member?_ofDimensions, Dimension.lastDeclares_iff_getLast?]
  constructor
  · intro h d hd haxis
    have hmem : d ∈ dims.filter (·.axis = axis) := by simp [hd, haxis]
    have hne : dims.filter (·.axis = axis) ≠ [] := List.ne_nil_of_mem hmem
    obtain ⟨⟨axis', m⟩, hlast⟩ := Option.ne_none_iff_exists'.1 (mt List.getLast?_eq_none_iff.1 hne)
    obtain rfl : axis' = axis := by
      simpa using (List.mem_filter.1 (List.mem_of_getLast? hlast)).2
    exact h m hlast
  · intro h m hlast
    exact h _ (List.mem_filter.1 (List.mem_of_getLast? hlast)).1 rfl

/--
A context has its dimensions in strict order of their axes, whatever the order and repetition of
the declarations; its member on an axis is the one declared last, if the axis is declared. Contexts
are equal exactly if they agree on the period and on the member on every axis. So declarations of
different axes may change places.
-/
theorem ofDimensions_lastDeclared (period : Period) (dims : List Dimension) :
    (ofDimensions period dims).dims.Pairwise (fun d e => d.axis < e.axis) ∧
      (∀ axis m, (ofDimensions period dims).member? axis = some m ↔ LastDeclares dims axis m) ∧
      (∀ axis, (ofDimensions period dims).member? axis = none ↔ ∀ d ∈ dims, d.axis ≠ axis) ∧
      (∀ c : Context, ofDimensions period dims = c ↔
        period = c.period ∧
          ∀ axis, (ofDimensions period dims).member? axis = c.member? axis) ∧
      ∀ dims', dims ~ dims' → (dims.map (·.axis)).Nodup →
        ofDimensions period dims' = ofDimensions period dims := by
  refine ⟨?ordered, ?declared, ?undeclared, ?equal, ?permuted⟩
  case ordered => exact Dimension.ordered_keepLast (Dimension.sorted_sort dims)
  case declared =>
    intro axis m
    exact member?_ofDimensions
  case undeclared =>
    intro axis
    exact member?_ofDimensions_eq_none_iff
  case equal =>
    intro c
    exact eq_iff_member?
  case permuted =>
    intro dims' hperm hnodup
    exact (ofDimensions_eq_of_perm hperm hnodup).symm

/-- A member on the axis of regions. -/
def region (name : String) : Dimension :=
  ⟨⟨"http://example.com/2024", "Region"⟩, .explicit ⟨"http://example.com/2024", name⟩⟩

/-- A value on the axis of products. -/
def product (name : String) : Dimension :=
  ⟨⟨"http://example.com/2024", "Product"⟩, .typed name⟩

/-- The region declared last counts, and products may be declared before or after regions. -/
theorem ofDimensions_lastDeclared_region :
    [region "North", product "Tea"] ~ [product "Tea", region "North"] ∧
      ([region "North", product "Tea"].map (·.axis)).Nodup ∧
      ofDimensions .forever [product "Tea", region "North"] =
        ofDimensions .forever [region "North", product "Tea"] ∧
      (ofDimensions .forever [region "North", product "Tea", region "South"]).member?
        (region "North").axis = some (region "South").member := by
  have hperm : [region "North", product "Tea"] ~ [product "Tea", region "North"] :=
    List.Perm.swap _ _ _
  have hnodup : ([region "North", product "Tea"].map (·.axis)).Nodup := by decide
  obtain ⟨-, -, -, -, hpermuted⟩ :=
    ofDimensions_lastDeclared .forever [region "North", product "Tea"]
  obtain ⟨-, hdeclared, -⟩ :=
    ofDimensions_lastDeclared .forever [region "North", product "Tea", region "South"]
  refine ⟨hperm, hnodup, hpermuted _ hperm hnodup, (hdeclared _ _).2 ?_⟩
  exact ⟨[region "North", product "Tea"], [], rfl, by simp⟩

end Context

end Disclosure
