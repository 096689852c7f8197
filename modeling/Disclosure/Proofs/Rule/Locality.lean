import Disclosure.Proofs.Json.Keys
import Disclosure.Proofs.Rule.Assembly

/-!
# Damage stays local

A field of an entry may hold anything: unknown groups, cycles, malformed patterns or values of the
wrong type. Unless it is one of the five fields that decide on kind and source, what it holds has
no effect but on the one part of the rule that it feeds and on the errors of its own entry
(`RuleSpec.damage_local`).
-/

namespace Disclosure

open Json (Members)

namespace Json.Members

variable {key : String} {value : Json} {ms : Members}

lemma agreeOn_put {keys : List String} (h : key ∉ keys) : AgreeOn keys ms (put key value ms) := by
  intro key' hkey'
  have hne : key ≠ key' := by
    rintro rfl
    exact h hkey'
  exact (get?_put_of_ne hne value ms).symm

/-- What is made of members, but not of the ones under a key, does not depend on these. -/
lemma filterMap_put {β : Type} {f : String × Json → Option β} (h : ∀ v, f (key, v) = none) :
    (put key value ms).filterMap f = ms.filterMap f := by
  induction ms with
  | nil => exact List.filterMap_cons_none (h value)
  | cons m ms ih =>
    obtain ⟨k, v⟩ := m
    rw [put]
    split_ifs with hk
    · subst hk
      rw [List.filterMap_cons_none (h value), List.filterMap_cons_none (h v)]
    · rw [List.filterMap_cons, List.filterMap_cons, ih]

end Json.Members

namespace Rule

variable {ctx : RunScope} {spec : RuleSpec} {position : Nat} {entry : Members} {key : String}
  {value : Json}

/-! ### One field replaced -/

lemma isComment_put (h : entry.hasKey key) : isComment (entry.put key value) = isComment entry := by
  have hall : ∀ ms : Members, isComment ms = ms.keys.all RuleSpec.isRemark := by
    intro ms
    rw [isComment, Json.Members.keys, List.all_map]
    rfl
  rw [hall, hall, Json.Members.keys_put, if_pos (Json.Members.hasKey_iff.1 h)]

/-- A part made from all fields with some ending does not depend on a field without it. -/
lemma same_put_of_ending {kind : RuleShape} {source : SourceFilter} {part : Part}
    (hpart : part ∈ endingParts.map Prod.snd) (hfeeds : ¬ Feeds key part) :
    part.Same (assembled ctx spec position entry kind source)
      (assembled ctx spec position (entry.put key value) kind source) := by
  rcases mem_endingParts_iff.1 hpart with rfl | rfl | rfl
  · refine (Json.Members.filterMap_put fun v => ?_).symm
    rw [checkPatternFor_of_not_feeds hfeeds, Check.answer_pure]
  · refine (Json.Members.filterMap_put fun v => ?_).symm
    rw [checkWhere_of_not_feeds hfeeds, Check.answer_pure]
  · refine (Json.Members.filterMap_put fun v => ?_).symm
    rw [checkValueMap_of_not_feeds hfeeds, Check.answer_pure]

lemma equalBut_put (hdecides : key ∉ decidingFields) (kind : RuleShape) (source : SourceFilter) :
    EqualBut {part | Feeds key part} (assembled ctx spec position entry kind source)
      (assembled ctx spec position (entry.put key value) kind source) := by
  refine equalBut_assembled ?_ ?_ ?_
  · refine Json.Members.agreeOn_put fun hmem => hdecides ?_
    rw [List.mem_singleton.1 hmem]
    decide
  · intro field part hfield hpart
    have hne : key ≠ field := by
      rintro rfl
      exact hpart (.named hfield)
    exact (Json.Members.get?_put_of_ne hne value entry).symm
  · intro part hpart hfeeds
    exact same_put_of_ending hpart hfeeds

end Rule

/-! ### One entry replaced -/

/-- What was found at other positions is the same whatever stands at a position. -/
lemma filter_flatMap_zipIdx_set {α β : Type} {f : α × Nat → List β} {position? : β → Option Nat}
    (h : ∀ e, ∀ b ∈ f e, position? b = some e.2) (as : List α) (i : Nat) (a : α) :
    ((as.set i a).zipIdx.flatMap f).filter (position? · ≠ some i) =
      (as.zipIdx.flatMap f).filter (position? · ≠ some i) := by
  have hnil : ∀ e : α × Nat, e.2 = i → (f e).filter (position? · ≠ some i) = [] := by
    intro e he
    rw [List.filter_eq_nil_iff]
    intro b hb
    simp [h e b hb, he]
  rw [List.filter_flatMap, List.filter_flatMap, List.flatMap_def, List.flatMap_def]
  congr 1
  apply List.ext_getElem?
  intro j
  rw [List.getElem?_map, List.getElem?_map, List.getElem?_zipIdx, List.getElem?_zipIdx,
    List.getElem?_set]
  split_ifs with hij hlt
  · subst hij
    have hi : 0 + i = i := Nat.zero_add i
    rw [List.getElem?_eq_getElem hlt]
    exact congrArg some ((hnil _ hi).trans (hnil _ hi).symm)
  · subst hij
    rw [List.getElem?_eq_none (Nat.le_of_not_lt hlt)]
  · rfl

namespace RuleSpec

variable (spec : RuleSpec) (ctx : RunScope)

/-- The specification with another entry at a position. -/
def withEntry (i : Nat) (raw : Json) : RuleSpec :=
  { spec with entries := spec.entries.set i raw }

lemma rules_withEntry (i : Nat) (raw : Json) :
    ((spec.withEntry i raw).compile ctx).rulebook.rules.filter (·.position ≠ i) =
      (spec.compile ctx).rulebook.rules.filter (·.position ≠ i) := by
  have hposition : ∀ (e : Json × Nat), ∀ r ∈ (spec.rule? ctx e.2 e.1).toList,
      some r.position = some e.2 := by
    intro e r hr
    rw [position_of_rule? spec ctx (Option.mem_toList.1 hr)]
  have h := filter_flatMap_zipIdx_set hposition spec.entries i raw
  rw [rules_compile, rules_compile]
  change ((spec.entries.set i raw).zipIdx.flatMap fun e => (spec.rule? ctx e.2 e.1).toList).filter
    _ = _
  simpa using h

lemma errors_withEntry (i : Nat) (raw : Json) :
    ((spec.withEntry i raw).compile ctx).errors.filter (·.location.position? ≠ some i) =
      (spec.compile ctx).errors.filter (·.location.position? ≠ some i) := by
  have hposition : ∀ (e : Json × Nat), ∀ error ∈ spec.entryErrors ctx e.2 e.1,
      error.location.position? = some e.2 :=
    fun e _ => spec.position?_of_mem_entryErrors ctx
  have h := filter_flatMap_zipIdx_set hposition spec.entries i raw
  rw [errors_compile, errors_compile, List.filter_append, List.filter_append]
  exact congrArg (· ++ spec.tableErrors.filter _) h

variable {spec ctx}

/-- Whatever a field holds, its entry becomes a rule or not by its deciding fields. -/
lemma rel_rule?_put {i : Nat} {entry : Members} {key : String} (hkey : entry.hasKey key)
    (hdecides : key ∉ Rule.decidingFields) (value : Json) :
    Option.Rel (Rule.EqualBut {part | Rule.Feeds key part})
      (spec.rule? ctx i (.obj entry)) (spec.rule? ctx i (.obj (entry.put key value))) := by
  rw [rule?, rule?, Rule.check, Rule.check, Rule.isComment_put hkey]
  split_ifs
  · exact .none
  · exact Rule.rel_checkMembers (Json.Members.agreeOn_put hdecides) (Rule.equalBut_put hdecides)

/--
Damage stays local: a field that does not decide on kind and source may hold any value. Its entry
becomes a rule as before, which differs at most in the one part that the field feeds; the rules and
the errors of other entries and the errors of the tables stay the same.
-/
theorem damage_local {i : Nat} {entry : Members} (hentry : spec.entries[i]? = some (.obj entry))
    {key : String} (hkey : entry.hasKey key) (hdecides : key ∉ Rule.decidingFields)
    (value : Json) :
    List.Forall₂ (Rule.EqualBut {part | Rule.Feeds key part}) ((spec.compile ctx).rulesAt i)
        (((spec.withEntry i (.obj (entry.put key value))).compile ctx).rulesAt i) ∧
      (∀ part part', Rule.Feeds key part → Rule.Feeds key part' → part = part') ∧
      ((spec.withEntry i (.obj (entry.put key value))).compile ctx).rulebook.rules.filter
          (·.position ≠ i) = (spec.compile ctx).rulebook.rules.filter (·.position ≠ i) ∧
      ((spec.withEntry i (.obj (entry.put key value))).compile ctx).errors.filter
          (·.location.position? ≠ some i) =
        (spec.compile ctx).errors.filter (·.location.position? ≠ some i) := by
  refine ⟨?_, fun _ _ => Rule.Feeds.unique, rules_withEntry .., errors_withEntry ..⟩
  obtain ⟨hlt, -⟩ := List.getElem?_eq_some_iff.1 hentry
  have hreplaced : (spec.withEntry i (.obj (entry.put key value))).entries[i]? =
      some (.obj (entry.put key value)) := List.getElem?_set_self hlt
  rw [rulesAt_compile, rulesAt_compile, hentry, hreplaced, Option.elim_some, Option.elim_some]
  exact Rule.forall₂_toList (rel_rule?_put hkey hdecides value)

lemma exists_rulesAt_forms : ∃ r, (formsSpec.compile openScope).rulesAt 0 = [r] := by
  have hrule : (formsSpec.rule? openScope 0 (.obj formsEntry)).isSome :=
    isSome_rule? rfl rfl rfl faults_formsEntry
  obtain ⟨r, hr⟩ := Option.isSome_iff_exists.1 hrule
  refine ⟨r, (rulesAt_compile formsSpec openScope 0).trans ?_⟩
  exact congrArg Option.toList hr

/-- A list of subtypes that refers to a group which does not exist. -/
def unknownSubTypes : Json :=
  .arr [.str "@quarterly"]

/-- The specification with this list of subtypes. -/
def damagedFormsSpec : RuleSpec :=
  formsSpec.withEntry 0 (.obj (formsEntry.put Rule.subTypesField unknownSubTypes))

theorem damage_local_unknown_group :
    formsSpec.entries[0]? = some (.obj formsEntry) ∧ formsEntry.hasKey Rule.subTypesField ∧
      Rule.subTypesField ∉ Rule.decidingFields ∧
      ∃ r r', (formsSpec.compile openScope).rulesAt 0 = [r] ∧
        (damagedFormsSpec.compile openScope).rulesAt 0 = [r'] ∧
        Rule.EqualBut {.subTypes} r r' := by
  have hentry : formsSpec.entries[0]? = some (.obj formsEntry) := rfl
  have hkey : formsEntry.hasKey Rule.subTypesField := rfl
  have hdecides : Rule.subTypesField ∉ Rule.decidingFields := by decide
  have hfeeds : {part | Rule.Feeds Rule.subTypesField part} = {.subTypes} := by
    have hsubTypes : Rule.Feeds Rule.subTypesField .subTypes := .named (by decide)
    ext part
    constructor
    · exact fun h => h.unique hsubTypes
    · rintro rfl
      exact hsubTypes
  obtain ⟨r, hr⟩ := exists_rulesAt_forms
  have hrules : List.Forall₂ (Rule.EqualBut {part | Rule.Feeds Rule.subTypesField part})
      ((formsSpec.compile openScope).rulesAt 0) ((damagedFormsSpec.compile openScope).rulesAt 0) :=
    (damage_local hentry hkey hdecides unknownSubTypes).1
  rw [hr, hfeeds] at hrules
  obtain ⟨r', rest, hequal, hnil, hr'⟩ := List.forall₂_cons_left_iff.1 hrules
  rw [List.forall₂_nil_left_iff.1 hnil] at hr'
  exact ⟨hentry, hkey, hdecides, r, r', hr, hr', hequal⟩

end RuleSpec

end Disclosure
