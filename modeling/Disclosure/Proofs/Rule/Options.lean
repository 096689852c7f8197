import Disclosure.Proofs.Rule.References

/-!
# Lists of options

A list under `value` is compiled in one of two forms. If the code of the rule calls for options, or
the list refers to groups, it is expanded to a set of tokens; otherwise it is kept as it is, and a
text is compared with the text of each item. Both forms accept the same texts, whatever the code:
the leaves of the full expansion of the list (`RuleSpec.accepts_iff_mem_leaves`).
-/

namespace Disclosure

open Json (Members)

/-! ### Texts of numbers -/

lemma groupMark_notMem_decimalDigits (n : Nat) : groupMark ∉ decimalDigits n := by
  intro h
  have hdigit := isDigit_of_mem_decimalDigits h
  revert hdigit
  decide

lemma groupMark_notMem_integerText (i : Int) : groupMark ∉ integerText i := by
  cases i with
  | ofNat n => exact groupMark_notMem_decimalDigits n
  | negSucc n =>
    rw [integerText, List.mem_cons, not_or]
    exact ⟨by decide, groupMark_notMem_decimalDigits _⟩

lemma groupMark_notMem_text (x : Binary64) : groupMark ∉ x.text := by
  have htake : ∀ n k, groupMark ∉ (decimalDigits n).take k :=
    fun n k h => groupMark_notMem_decimalDigits n (List.mem_of_mem_take h)
  have hdrop : ∀ n k, groupMark ∉ (decimalDigits n).drop k :=
    fun n k h => groupMark_notMem_decimalDigits n (List.mem_of_mem_drop h)
  have htail : ∀ n, groupMark ∉ (decimalDigits n).tail := by
    intro n
    rw [← List.drop_one]
    exact hdrop n 1
  have hchars : groupMark ≠ '-' ∧ groupMark ≠ '.' ∧ groupMark ≠ '0' ∧ groupMark ≠ 'e' ∧
      groupMark ≠ '+' := by decide
  unfold Binary64.text
  dsimp only
  split_ifs <;> simp [groupMark_notMem_decimalDigits, htake, hdrop, htail, hchars]

lemma referencedGroup?_of_notMem {t : String} (h : groupMark ∉ t.toList) :
    referencedGroup? t = none := by
  rw [referencedGroup?]
  cases ht : t.toList with
  | nil => rfl
  | cons c name =>
    rw [ht, List.mem_cons, not_or] at h
    simp only
    rw [if_neg (Ne.symm h.1)]

/-! ### Scalars -/

namespace Json

/-- Whether a value is a string, a number or a truth value. -/
inductive IsScalar : Json → Prop
  | bool (b : Bool) : IsScalar (.bool b)
  | num (n : Number) : IsScalar (.num n)
  | str (s : String) : IsScalar (.str s)

variable {v : Json} {items : List Json}

lemma IsScalar.not_holdsObject (h : v.IsScalar) : ¬ v.HoldsObject := by
  intro hobject
  cases hobject <;> cases h

lemma IsScalar.scalars_eq (h : v.IsScalar) : v.scalars = [v.scalarText] := by
  cases h with
  | str s => rw [scalars, scalarText]
  | bool b => rw [scalars]
  | num n => rw [scalars]

lemma not_holdsObject_of_isScalar (h : ∀ v ∈ items, v.IsScalar) : ¬ (arr items).HoldsObject := by
  rw [holdsObject_arr]
  rintro ⟨v, hv, hobject⟩
  exact (h v hv).not_holdsObject hobject

lemma itemsScalars_of_isScalar (h : ∀ v ∈ items, v.IsScalar) :
    itemsScalars items = items.map scalarText := by
  induction items with
  | nil => rfl
  | cons v vs ih =>
    obtain ⟨hv, hvs⟩ := List.forall_mem_cons.1 h
    rw [itemsScalars, hv.scalars_eq, ih hvs]
    rfl

lemma flatten_of_isScalar (h : ∀ v ∈ items, v.IsScalar) :
    (arr items).flatten = .ok (items.map scalarText) := by
  rw [flatten_of_not_holdsObject (not_holdsObject_of_isScalar h), scalars,
    itemsScalars_of_isScalar h]

/-- Of the scalars only strings can refer to groups. -/
lemma IsScalar.referencedGroup?_eq (h : v.IsScalar) :
    referencedGroup? v.scalarText = v.string?.bind referencedGroup? := by
  cases h with
  | str s => rfl
  | bool b => cases b <;> cbv
  | num n =>
    refine referencedGroup?_of_notMem ?_
    have hchars : (Json.num n).scalarText.toList = n.text := by
      change (String.ofList n.text).toList = n.text
      rw [String.toList_ofList]
    rw [hchars]
    cases n with
    | int i => exact groupMark_notMem_integerText i
    | float x => exact groupMark_notMem_text x

/-- A list of scalars without references is its own full expansion. -/
lemma unfolds_of_not_refersToGroup {table : Members} (h : ∀ v ∈ items, v.IsScalar)
    (hrefers : (arr items).refersToGroup = false) :
    (arr items).Unfolds table (items.map scalarText) := by
  refine ⟨_, flatten_of_isScalar h, ?_⟩
  rw [refersToGroup, List.any_eq_false] at hrefers
  induction items with
  | nil => exact .nil
  | cons v vs ih =>
    obtain ⟨hv, hvs⟩ := List.forall_mem_cons.1 h
    obtain ⟨hleaf, hrest⟩ := List.forall_mem_cons.1 hrefers
    rw [Bool.not_eq_true, Option.isSome_eq_false_iff, Option.isNone_iff_eq_none,
      ← hv.referencedGroup?_eq] at hleaf
    exact .leaf hleaf (ih hvs hrest)

end Json

namespace Rule

open ValueConstraint (valueField)

/-- Whether an entry offers the items of a list as its values, and has no other constraint. -/
structure Offers (entry : Members) (items : List Json) : Prop where
  value : entry.get? valueField = some (.arr items)
  alone : ∀ field ∈ ValueConstraint.fields, field ≠ valueField → entry.hasKey field = false

variable {table : Members} {entry : Members} {items : List Json} {leaves : List String}

lemma Offers.select_eq (h : Offers entry items) :
    ValueConstraint.select entry = some (valueField, .arr items) := by
  have halone : ∀ field ∈ ValueConstraint.fields, field ≠ valueField → entry.get? field = none :=
    fun field hfield hne => hasKey_eq_false_iff.1 (h.alone field hfield hne)
  rw [ValueConstraint.select, ValueConstraint.fields]
  simp only [List.findSome?_cons,
    halone _ (by decide : ValueConstraint.patternField ∈ _) (by decide),
    halone _ (by decide : ValueConstraint.numbersField ∈ _) (by decide),
    halone _ (by decide : ValueConstraint.datesField ∈ _) (by decide), h.value, Option.map_none,
    Option.map_some]

/-- In either form a list accepts its leaves. -/
lemma accepts_of_checkConstraint (hscalar : ∀ v ∈ items, v.IsScalar)
    (hleaves : (Json.arr items).Unfolds table leaves) (union : Bool) :
    ∃ c, (checkConstraint valueField (.arr items) union).Yields table (some c) ∧
      ∀ t, c.accepts t ↔ t ∈ leaves := by
  rw [checkConstraint]
  cases hform : union || (Json.arr items).refersToGroup with
  | true =>
    rw [if_pos (by simp [Json.isList, Json.items?])]
    obtain ⟨out, hout⟩ := hleaves.resolvable.exists_unrollValue
    obtain ⟨leaves', hleaves', rfl⟩ := unfolds_unrollValue hout
    obtain rfl := hleaves.unique hleaves'
    refine ⟨.oneOf (.ofList leaves), ?_, fun t => ?_⟩
    · exact Check.yields_bind_iff.2 ⟨_, Check.yields_expand_iff.2 hout, Check.yields_pure_iff.2 rfl⟩
    · exact Tokens.contains_ofList
  | false =>
    obtain ⟨-, hrefers⟩ := Bool.or_eq_false_iff.1 hform
    obtain rfl := hleaves.unique (Json.unfolds_of_not_refersToGroup hscalar hrefers)
    rw [if_neg (by simp [Json.isList, Json.items?])]
    refine ⟨.literal (.arr items), Check.yields_pure_iff.2 rfl, fun t => ?_⟩
    simp [ValueConstraint.accepts]

lemma accepts_of_checkValue (hscalar : ∀ v ∈ items, v.IsScalar)
    (hleaves : (Json.arr items).Unfolds table leaves) (hoffers : Offers entry items)
    (code : Option String) :
    ∃ c, (checkValue entry code).Yields table (some c) ∧ ∀ t, c.accepts t ↔ t ∈ leaves := by
  obtain ⟨c, hc, haccepts⟩ := accepts_of_checkConstraint hscalar hleaves (isUnion code)
  have hlist : (isUnion code && !(entry.get? valueField).any (·.isList)) = false := by
    rw [hoffers.value]
    simp [Json.isList, Json.items?]
  refine ⟨c, ?_, haccepts⟩
  rw [checkValue, hlist, hoffers.select_eq]
  exact Check.yields_bind_iff.2 ⟨(), Check.yields_pure_iff.2 rfl, hc⟩

end Rule

/-! ### Specifications -/

namespace RuleSpec

/--
A list of scalars whose references can be followed to the end accepts the leaves of its full
expansion and no other text, whatever the code of the rule: for every code the constraint of an
entry that offers it is compiled without a fault, and so accepts the same texts in each rule that is
made from such an entry.
-/
theorem accepts_iff_mem_leaves (spec : RuleSpec) (ctx : RunScope) {items : List Json}
    (hscalar : ∀ v ∈ items, v.IsScalar)
    (hresolvable : Resolvable spec.subTypeClasses (.arr items)) :
    ∃ leaves, (Json.arr items).Unfolds spec.subTypeClasses leaves ∧
      ∀ entry, Rule.Offers entry items →
        (∀ code : Option String, ∃ c,
          (Rule.checkValue entry code).Yields spec.subTypeClasses (some c) ∧
            ∀ t, c.accepts t ↔ t ∈ leaves) ∧
        ∀ r ∈ (spec.compile ctx).rulebook.rules, spec.entries[r.position]? = some (.obj entry) →
          ∃ c, r.value = some c ∧ ∀ t, c.accepts t ↔ t ∈ leaves := by
  obtain ⟨out, hout⟩ := hresolvable.exists_unrollValue
  obtain ⟨leaves, hleaves, -⟩ := unfolds_unrollValue hout
  refine ⟨leaves, hleaves, fun entry hoffers => ?_⟩
  have hcodes := Rule.accepts_of_checkValue hscalar hleaves hoffers
  refine ⟨hcodes, fun r hr hentry => ?_⟩
  obtain ⟨c, ⟨hanswer, -⟩, haccepts⟩ := hcodes (Rule.code? spec.subTypeClasses entry)
  obtain ⟨kind, source, hassembled⟩ := exists_assembled_of_mem_rules hr hentry
  refine ⟨c, ?_, haccepts⟩
  rw [congrArg Rule.value hassembled]
  exact hanswer

/-- Options of which one is a group, and one the token that elsewhere stands for all. -/
def annualOptions : List Json := [.str "@annual", .num (.int 7), .bool true, .str "*"]

/-- An entry that offers them. -/
def annualEntry : Members :=
  [("xbrl-names", .str "dei:DocumentType"), ("value", .arr annualOptions)]

theorem accepts_iff_mem_leaves_annual :
    (∀ v ∈ annualOptions, v.IsScalar) ∧ Resolvable forms (.arr annualOptions) ∧
      Rule.Offers annualEntry annualOptions ∧
        ∀ code : Option String, ∃ c, (Rule.checkValue annualEntry code).Yields forms (some c) ∧
          c.accepts "20-F" ∧ c.accepts "7" ∧ c.accepts "*" ∧ ¬ c.accepts "8-K" := by
  have hscalar : ∀ v ∈ annualOptions, v.IsScalar := by
    simp only [annualOptions, List.forall_mem_cons]
    exact ⟨.str _, .num _, .bool _, .str _, List.forall_mem_nil _⟩
  have hunfolds : (Json.arr annualOptions).Unfolds forms ["10-K", "20-F", "7", "true", "*"] := by
    have htexts : annualOptions.map Json.scalarText = ["@annual", "7", "true", "*"] := by cbv
    refine ⟨_, Json.flatten_of_isScalar hscalar, ?_⟩
    rw [htexts]
    have hgroup : Unfolds forms ["10-K", "20-F"] ["10-K", "20-F"] := .leaf rfl (.leaf rfl .nil)
    exact .group rfl rfl hgroup (.leaf rfl (.leaf rfl (.leaf rfl .nil)))
  have hoffers : Rule.Offers annualEntry annualOptions := ⟨rfl, by decide⟩
  obtain ⟨leaves, hleaves, haccepts⟩ :=
    accepts_iff_mem_leaves formsSpec openScope hscalar hunfolds.resolvable
  obtain rfl := hleaves.unique hunfolds
  refine ⟨hscalar, hunfolds.resolvable, hoffers, fun code => ?_⟩
  obtain ⟨c, hc, hiff⟩ := (haccepts annualEntry hoffers).1 code
  exact ⟨c, hc, by simp [hiff], by simp [hiff], by simp [hiff], by simp [hiff]⟩

end RuleSpec

end Disclosure
