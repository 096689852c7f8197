import Mathlib.Data.List.Flatten
import Disclosure.Proofs.Rule.Assembly

/-!
# Remarks

Keys that begin as comments carry no rule content, and entries with no other keys are skipped.
Beside other keys, however, a remark whose key ends like those of patterns, clauses or mappings is
taken for one, so remarks cannot be deleted at will (`RuleSpec.remark_counts`). Deleting them
changes nothing exactly if each has no such ending, or is not reported and stands in an entry that
becomes no rule (`RuleSpec.compile_withoutRemarks`).
-/

namespace Disclosure

open Json (Members)

/-! ### Outcomes without quotations -/

/-- The rule without its copy of the entry. -/
def Rule.unquoted (r : Rule) : Rule :=
  { r with attributes := [] }

/-- The location without its copy of the entry. -/
def Location.unquoted : Location → Location
  | .entry position _ => .entry position .null
  | l => l

/-- The error without its copy of the entry. -/
def RuleError.unquoted (e : RuleError) : RuleError :=
  { e with location := e.location.unquoted }

/-- The rules and errors without their copies of entries. -/
def Compilation.unquoted (c : Compilation) : Compilation where
  rulebook := { c.rulebook with rules := c.rulebook.rules.map (·.unquoted) }
  errors := c.errors.map (·.unquoted)

lemma Location.position?_unquoted (l : Location) : l.unquoted.position? = l.position? := by
  cases l <;> rfl

/-! ### Lists with some elements deleted -/

section Deletion

variable {α β : Type} {p : α → Bool}

lemma append_eq_append_iff_of_sublist {as as' bs bs' : List α} (ha : as.Sublist as')
    (hb : bs.Sublist bs') : as ++ bs = as' ++ bs' ↔ as = as' ∧ bs = bs' := by
  constructor
  · intro h
    have hlength := congrArg List.length h
    simp only [List.length_append] at hlength
    have hale := ha.length_le
    have hble := hb.length_le
    exact ⟨ha.eq_of_length (by omega), hb.eq_of_length (by omega)⟩
  · rintro ⟨rfl, rfl⟩
    rfl

/-- Deleted elements are not missed if they contribute nothing, and only then. -/
lemma flatMap_filter_eq_iff (f : α → List β) (as : List α) :
    (as.filter p).flatMap f = as.flatMap f ↔ ∀ a ∈ as, p a = false → f a = [] := by
  induction as with
  | nil => simp
  | cons a as ih =>
    rw [List.forall_mem_cons, ← ih, List.flatMap_cons]
    have hsub : ((as.filter p).flatMap f).Sublist (as.flatMap f) := List.filter_sublist.flatMap f
    cases hp : p a with
    | true => simp [hp]
    | false =>
      rw [List.filter_cons_of_neg (by simp [hp])]
      have hcons := append_eq_append_iff_of_sublist (List.nil_sublist (f a)) hsub
      rw [List.nil_append] at hcons
      rw [hcons, eq_comm]
      simp

end Deletion

namespace Rule

/-! ### Entries without remarks -/

/-- The entry without its remarks. -/
def withoutRemarks (entry : Members) : Members :=
  entry.filter (!RuleSpec.isRemark ·.1)

variable {entry : Members}

lemma get?_withoutRemarks {key : String} (h : RuleSpec.isRemark key = false) :
    (withoutRemarks entry).get? key = entry.get? key := by
  induction entry with
  | nil => rfl
  | cons m ms ih =>
    obtain ⟨k, v⟩ := m
    by_cases hk : k = key
    · subst hk
      simp [withoutRemarks, h, Json.Members.get?_cons]
    · cases hremark : RuleSpec.isRemark k with
      | true => simpa [withoutRemarks, hremark, Json.Members.get?_cons, hk] using ih
      | false => simpa [withoutRemarks, hremark, Json.Members.get?_cons, hk] using ih

lemma isRemark_fieldNames : ∀ field ∈ fieldNames, RuleSpec.isRemark field = false := by
  decide

lemma agreeOn_withoutRemarks : Json.Members.AgreeOn fieldNames (withoutRemarks entry) entry :=
  fun _ hfield => get?_withoutRemarks (isRemark_fieldNames _ hfield)

lemma isComment_withoutRemarks (h : isComment entry = false) :
    isComment (withoutRemarks entry) = false := by
  rw [isComment, List.all_eq_false] at h ⊢
  obtain ⟨m, hm, hremark⟩ := h
  refine ⟨m, List.mem_filter.2 ⟨hm, ?_⟩, hremark⟩
  simpa using hremark

/-- No remark begins like a message. -/
lemma isRemark_of_startsWith_message {key : String} (h : Text.startsWith messageField key) :
    RuleSpec.isRemark key = false := by
  have hstart : ∀ part ∈ ["comment", "#"], Text.startsWith part key = false := by
    intro part hpart
    have hall : ∀ part ∈ ["comment", "#"], ¬ Text.startsWith part messageField ∧
        ¬ Text.startsWith messageField part := by decide
    rw [Bool.eq_false_iff, ne_eq, Text.startsWith_iff]
    intro hpre
    rcases List.prefix_or_prefix_of_prefix hpre (Text.startsWith_iff.1 h) with hle | hle
    · exact (hall part hpart).1 (Text.startsWith_iff.2 hle)
    · exact (hall part hpart).2 (Text.startsWith_iff.2 hle)
  rw [RuleSpec.isRemark, hstart _ (by simp), hstart _ (by simp)]
  rfl

lemma any_message_withoutRemarks :
    ((withoutRemarks entry).any fun m => Text.startsWith messageField m.1) =
      entry.any fun m => Text.startsWith messageField m.1 := by
  rw [withoutRemarks, List.any_filter]
  congr 1
  funext m
  cases h : Text.startsWith messageField m.1 with
  | true => simp [isRemark_of_startsWith_message h]
  | false => simp

variable (entry) in
lemma sublist_withoutRemarks {β : Type} (f : String × Json → List β) :
    ((withoutRemarks entry).flatMap f).Sublist (entry.flatMap f) :=
  List.filter_sublist.flatMap f

variable (entry) in
/-- Remarks are not missed if they contribute nothing, and only then. -/
lemma flatMap_withoutRemarks_eq_iff {β : Type} (f : String × Json → List β) :
    (withoutRemarks entry).flatMap f = entry.flatMap f ↔
      ∀ m ∈ entry, RuleSpec.isRemark m.1 → f m = [] := by
  rw [withoutRemarks, flatMap_filter_eq_iff]
  simp

variable (entry) in
lemma filterMap_withoutRemarks_eq_iff {β : Type} (f : String × Json → Option β) :
    (withoutRemarks entry).filterMap f = entry.filterMap f ↔
      ∀ m ∈ entry, RuleSpec.isRemark m.1 → f m = none := by
  rw [List.filterMap_eq_flatMap_toList, List.filterMap_eq_flatMap_toList,
    flatMap_withoutRemarks_eq_iff]
  simp

/-! ### Remarks with an ending -/

variable {table : Members} {m : String × Json}

/-- The faults of a member that is read as a pattern, a clause or a mapping. -/
def endingFaults (table : Members) (m : String × Json) : List RuleFault :=
  (checkPatternFor m).faults table ++ (checkWhere m).faults table ++
    (checkValueMap table m).faults table

/-- Whether a member adds no pattern, no clause and no mapping to a rule. -/
structure AddsNothing (table : Members) (m : String × Json) : Prop where
  pattern : (checkPatternFor m).answer table = none
  clause : (checkWhere m).answer table = none
  valueMap : (checkValueMap table m).answer table = none

lemma endingFaults_eq_nil_iff : endingFaults table m = [] ↔
    (checkPatternFor m).faults table = [] ∧ (checkWhere m).faults table = [] ∧
      (checkValueMap table m).faults table = [] := by
  rw [endingFaults, List.append_eq_nil_iff, List.append_eq_nil_iff, and_assoc]

lemma addsNothing_of_not_feeds (h : ∀ part, ¬ Feeds m.1 part) :
    endingFaults table m = [] ∧ AddsNothing table m := by
  rw [endingFaults_eq_nil_iff, checkPatternFor_of_not_feeds (h .patterns),
    checkWhere_of_not_feeds (h .clauses), checkValueMap_of_not_feeds (h .valueMaps)]
  refine ⟨⟨rfl, rfl, rfl⟩, ?_, ?_, ?_⟩
  · rw [checkPatternFor_of_not_feeds (h .patterns), Check.answer_pure]
  · rw [checkWhere_of_not_feeds (h .clauses), Check.answer_pure]
  · rw [checkValueMap_of_not_feeds (h .valueMaps), Check.answer_pure]

/-- The parts that remarks feed are made from fields with an ending. -/
lemma mem_endingParts_of_isRemark {part : Part} (hremark : RuleSpec.isRemark m.1)
    (h : Feeds m.1 part) : part ∈ endingParts.map Prod.snd := by
  cases h with
  | named h =>
    rw [isRemark_fieldNames _ (mem_fieldNames h)] at hremark
    cases hremark
  | ending h _ _ => exact List.mem_map_of_mem h

/-- A member with an ending is reported, or it adds something. -/
lemma not_addsNothing_of_feeds {part : Part} (hremark : RuleSpec.isRemark m.1)
    (h : Feeds m.1 part) (hfaults : endingFaults table m = []) : ¬ AddsNothing table m := by
  intro hnothing
  obtain ⟨hpattern, hclause, hvalueMap⟩ := endingFaults_eq_nil_iff.1 hfaults
  rcases mem_endingParts_iff.1 (mem_endingParts_of_isRemark hremark h) with rfl | rfl | rfl
  · obtain ⟨p, hp, -⟩ := resolvesPattern_of_check (feeds_patterns_iff.1 h) ⟨rfl, hpattern⟩
    rw [hnothing.pattern] at hp
    cases hp
  · obtain ⟨w, hw, -⟩ := resolvesClause_of_check (feeds_clauses_iff.1 h) ⟨rfl, hclause⟩
    rw [hnothing.clause] at hw
    cases hw
  · obtain ⟨p, hp, -⟩ := resolvesMap_of_check (feeds_valueMaps_iff.1 h) ⟨rfl, hvalueMap⟩
    rw [hnothing.valueMap] at hp
    cases hp

/-! ### Rules of entries without remarks -/

/-- Whether a rule has all that another has, and maybe more patterns, clauses and mappings. -/
structure Extends (r s : Rule) : Prop where
  equal : EqualBut {.patterns, .clauses, .valueMaps} r s
  patterns : r.patterns.Sublist s.patterns
  clauses : r.clauses.Sublist s.clauses
  valueMaps : r.valueMaps.Sublist s.valueMaps

lemma EqualBut.unquoted_eq_iff {parts : Set Part} {r s : Rule} (h : EqualBut parts r s) :
    r.unquoted = s.unquoted ↔ ∀ part ∈ parts, part.Same r s := by
  rw [unquoted, unquoted, Rule.mk.injEq]
  constructor
  · rintro ⟨-, -, -, hnames, hsubTypes, hformTypes, hvalue, haxis, hmessage, hseverity, hlang,
      hreferences, hstoredValues, hpatterns, hclauses, hvalueMaps, -⟩ part -
    cases part with
    | names => exact hnames
    | subTypes => exact hsubTypes
    | formTypes => exact hformTypes
    | value => exact hvalue
    | axis => exact haxis
    | message => exact hmessage
    | severity => exact hseverity
    | lang => exact hlang
    | references => exact hreferences
    | storedValues => exact hstoredValues
    | patterns => exact hpatterns
    | clauses => exact hclauses
    | valueMaps => exact hvalueMaps
  · intro hsame
    have hall : ∀ part : Part, part.Same r s := by
      intro part
      by_cases hpart : part ∈ parts
      · exact hsame part hpart
      · exact h.same part hpart
    exact ⟨h.position, h.kind, h.source, hall .names, hall .subTypes, hall .formTypes,
      hall .value, hall .axis, hall .message, hall .severity, hall .lang, hall .references,
      hall .storedValues, hall .patterns, hall .clauses, hall .valueMaps, rfl⟩

variable {ctx : RunScope} {spec : RuleSpec} {position : Nat}

lemma extends_assembled (kind : RuleShape) (source : SourceFilter) :
    Extends (assembled ctx spec position (withoutRemarks entry) kind source)
      (assembled ctx spec position entry kind source) := by
  refine ⟨equalBut_assembled ?_ ?_ ?_, ?_, ?_, ?_⟩
  · exact agreeOn_withoutRemarks.mono (by decide)
  · intro field part hfield _
    exact agreeOn_withoutRemarks field (mem_fieldNames hfield)
  · intro part hpart hnot
    exact absurd (mem_endingParts_iff.1 hpart) hnot
  · exact List.filter_sublist.filterMap _
  · exact List.filter_sublist.filterMap _
  · exact List.filter_sublist.filterMap _

lemma unquoted_assembled_eq_iff (kind : RuleShape) (source : SourceFilter) :
    (assembled ctx spec position (withoutRemarks entry) kind source).unquoted =
        (assembled ctx spec position entry kind source).unquoted ↔
      ∀ m ∈ entry, RuleSpec.isRemark m.1 → AddsNothing spec.subTypeClasses m := by
  have hpatterns := filterMap_withoutRemarks_eq_iff entry
    fun m => (checkPatternFor m).answer spec.subTypeClasses
  have hclauses := filterMap_withoutRemarks_eq_iff entry
    fun m => (checkWhere m).answer spec.subTypeClasses
  have hvalueMaps := filterMap_withoutRemarks_eq_iff entry
    fun m => (checkValueMap spec.subTypeClasses m).answer spec.subTypeClasses
  rw [(extends_assembled kind source).equal.unquoted_eq_iff]
  constructor
  · intro h m hm hremark
    exact ⟨hpatterns.1 (h .patterns (by simp)) m hm hremark,
      hclauses.1 (h .clauses (by simp)) m hm hremark,
      hvalueMaps.1 (h .valueMaps (by simp)) m hm hremark⟩
  · rintro h part (rfl | rfl | rfl)
    · exact hpatterns.2 fun m hm hremark => (h m hm hremark).pattern
    · exact hclauses.2 fun m hm hremark => (h m hm hremark).clause
    · exact hvalueMaps.2 fun m hm hremark => (h m hm hremark).valueMap

/-! ### Faults of entries without remarks -/

/-- Without remarks an entry has the same faults but for the fields known by their endings. -/
lemma faults_withoutRemarks :
    (checkMembers ctx spec position (withoutRemarks entry)).faults spec.subTypeClasses =
      leadingFaults ctx spec entry ++
        ((withoutRemarks entry).flatMap fun m =>
          (checkPatternFor m).faults spec.subTypeClasses) ++
        (checkStoredValues entry).faults spec.subTypeClasses ++
        ((withoutRemarks entry).flatMap fun m => (checkWhere m).faults spec.subTypeClasses) ++
        ((withoutRemarks entry).flatMap fun m =>
          (checkValueMap spec.subTypeClasses m).faults spec.subTypeClasses) ++
        (checkKind ctx entry (code? spec.subTypeClasses entry)
          ((checkCitation entry).answer spec.subTypeClasses)).faults spec.subTypeClasses := by
  have hagree : ∀ {fields : List String}, fields ⊆ fieldNames →
      Json.Members.AgreeOn fields (withoutRemarks entry) entry := agreeOn_withoutRemarks.mono
  have hcode : code? spec.subTypeClasses (withoutRemarks entry) = code? spec.subTypeClasses entry :=
    code?_congr (hagree (by decide))
  rw [faults_checkMembers, leadingFaults_congr (hagree (by decide)) any_message_withoutRemarks,
    checkStoredValues_congr (hagree (by decide)), checkKind_congr (hagree (by decide)), hcode,
    checkCitation_congr (hagree (by decide))]

lemma sublist_faults_withoutRemarks :
    ((checkMembers ctx spec position (withoutRemarks entry)).faults spec.subTypeClasses).Sublist
      ((checkMembers ctx spec position entry).faults spec.subTypeClasses) := by
  rw [faults_withoutRemarks, faults_checkMembers]
  have hsub := sublist_withoutRemarks (β := RuleFault) entry
  exact (((((List.Sublist.refl _).append (hsub _)).append (.refl _)).append (hsub _)).append
    (hsub _)).append (.refl _)

lemma faults_withoutRemarks_eq_iff :
    (checkMembers ctx spec position (withoutRemarks entry)).faults spec.subTypeClasses =
        (checkMembers ctx spec position entry).faults spec.subTypeClasses ↔
      ∀ m ∈ entry, RuleSpec.isRemark m.1 → endingFaults spec.subTypeClasses m = [] := by
  have hsub := sublist_withoutRemarks (β := RuleFault) entry
  rw [faults_withoutRemarks, faults_checkMembers]
  simp only [List.append_assoc, List.append_right_inj]
  -- all other faults, in between and behind, are the same
  rw [append_eq_append_iff_of_sublist (hsub _)
      ((List.Sublist.refl _).append ((hsub _).append ((hsub _).append (.refl _)))),
    List.append_right_inj,
    append_eq_append_iff_of_sublist (hsub _) ((hsub _).append (.refl _)), List.append_left_inj,
    flatMap_withoutRemarks_eq_iff, flatMap_withoutRemarks_eq_iff, flatMap_withoutRemarks_eq_iff]
  simp only [endingFaults_eq_nil_iff]
  constructor
  · rintro ⟨hpatterns, hclauses, hvalueMaps⟩ m hm hremark
    exact ⟨hpatterns m hm hremark, hclauses m hm hremark, hvalueMaps m hm hremark⟩
  · intro h
    exact ⟨fun m hm hremark => (h m hm hremark).1, fun m hm hremark => (h m hm hremark).2.1,
      fun m hm hremark => (h m hm hremark).2.2⟩

/-! ### Entries that become rules -/

/-- Without remarks an entry becomes a rule as before, and nothing is added to it. -/
lemma rel_withoutRemarks : Option.Rel Extends
    ((checkMembers ctx spec position (withoutRemarks entry)).answer spec.subTypeClasses)
    ((checkMembers ctx spec position entry).answer spec.subTypeClasses) :=
  rel_checkMembers (agreeOn_withoutRemarks.mono (by decide)) extends_assembled

lemma map_unquoted_eq_iff_of_rel {P : Prop} {r? s? : Option Rule}
    (h : Option.Rel (fun r s => r.unquoted = s.unquoted ↔ P) r? s?) :
    r?.map (·.unquoted) = s?.map (·.unquoted) ↔ (s?.isSome → P) := by
  cases h with
  | none => simp
  | some h => simp [h]

/-- If an entry becomes a rule, this is the same without remarks exactly if they add nothing. -/
lemma map_unquoted_answer_eq_iff :
    ((checkMembers ctx spec position (withoutRemarks entry)).answer spec.subTypeClasses).map
          (·.unquoted) =
        ((checkMembers ctx spec position entry).answer spec.subTypeClasses).map (·.unquoted) ↔
      (((checkMembers ctx spec position entry).answer spec.subTypeClasses).isSome →
        ∀ m ∈ entry, RuleSpec.isRemark m.1 → AddsNothing spec.subTypeClasses m) := by
  apply map_unquoted_eq_iff_of_rel
  exact rel_checkMembers (agreeOn_withoutRemarks.mono (by decide)) unquoted_assembled_eq_iff

end Rule

/-! ### Specifications -/

namespace RuleSpec

/-- The entry without its remarks if it holds anything else. -/
def stripped : Json → Json
  | .obj entry => if Rule.isComment entry then .obj entry else .obj (Rule.withoutRemarks entry)
  | raw => raw

/-- The specification without remarks in its entries. Entries of nothing but comments stay. -/
def withoutRemarks (spec : RuleSpec) : RuleSpec :=
  { spec with entries := spec.entries.map stripped }

variable (spec : RuleSpec) (ctx : RunScope)

/-- Whether a remark in the entry at a position has no effect. -/
def LeavesNoTrace (i : Nat) (m : String × Json) : Prop :=
  (∀ part, ¬ Rule.Feeds m.1 part) ∨
    ((spec.compile ctx).rulesAt i = [] ∧ Rule.endingFaults spec.subTypeClasses m = [])

variable {spec ctx} {entry : Members}

lemma stripped_obj (h : Rule.isComment entry = false) :
    stripped (.obj entry) = .obj (Rule.withoutRemarks entry) := by
  rw [stripped, h]
  rfl

lemma leavesNoTrace_iff {i : Nat} {raw : Json} (hraw : spec.entries[i]? = some raw)
    {m : String × Json} (hremark : isRemark m.1) :
    spec.LeavesNoTrace ctx i m ↔ Rule.endingFaults spec.subTypeClasses m = [] ∧
      ((spec.rule? ctx i raw).isSome → Rule.AddsNothing spec.subTypeClasses m) := by
  have hrules : (spec.compile ctx).rulesAt i = [] ↔ ¬ (spec.rule? ctx i raw).isSome := by
    rw [← rulesAt_ne_nil_iff hraw, not_not]
  rw [LeavesNoTrace, hrules]
  constructor
  · rintro (hfeeds | ⟨hnone, hfaults⟩)
    · obtain ⟨hfaults, hnothing⟩ := Rule.addsNothing_of_not_feeds hfeeds
      exact ⟨hfaults, fun _ => hnothing⟩
    · exact ⟨hfaults, fun hsome => absurd hsome hnone⟩
  · rintro ⟨hfaults, hnothing⟩
    by_cases hfeeds : ∃ part, Rule.Feeds m.1 part
    · obtain ⟨part, hpart⟩ := hfeeds
      right
      refine ⟨fun hsome => ?_, hfaults⟩
      exact Rule.not_addsNothing_of_feeds hremark hpart hfaults (hnothing hsome)
    · left
      exact not_exists.1 hfeeds

/-- An entry has the same outcome without its remarks if none of these leaves a trace. -/
lemma stripped_iff {i : Nat} {raw : Json} (hraw : spec.entries[i]? = some raw) :
    ((spec.rule? ctx i (stripped raw)).map (·.unquoted) =
          (spec.rule? ctx i raw).map (·.unquoted) ∧
        spec.faults ctx (stripped raw) = spec.faults ctx raw) ↔
      ∀ entry, raw = .obj entry → Rule.isComment entry = false →
        ∀ m ∈ entry, isRemark m.1 → spec.LeavesNoTrace ctx i m := by
  cases raw with
  | obj entry =>
    cases hcomment : Rule.isComment entry with
    | true => simp [stripped, hcomment]
    | false =>
      have hstripped := Rule.isComment_withoutRemarks hcomment
      rw [stripped_obj hcomment, rule?_obj hstripped, rule?_obj hcomment, faults_obj hstripped,
        faults_obj hcomment, Rule.map_unquoted_answer_eq_iff, Rule.faults_withoutRemarks_eq_iff,
        ← rule?_obj hcomment]
      constructor
      · rintro ⟨hrule, hfaults⟩ _ ⟨⟩ - m hm hremark
        exact (leavesNoTrace_iff hraw hremark).2
          ⟨hfaults m hm hremark, fun hsome => hrule hsome m hm hremark⟩
      · intro h
        have htrace : ∀ m ∈ entry, isRemark m.1 → _ := fun m hm hremark =>
          (leavesNoTrace_iff hraw hremark).1 (h entry rfl hcomment m hm hremark)
        exact ⟨fun hsome m hm hremark => (htrace m hm hremark).2 hsome,
          fun m hm hremark => (htrace m hm hremark).1⟩
  | _ => simp [stripped]

/-! ### Outcomes -/

lemma rulesAt_unquoted (c : Compilation) (i : Nat) :
    c.unquoted.rulesAt i = (c.rulesAt i).map (·.unquoted) :=
  List.filter_map

lemma errorsAt_unquoted (c : Compilation) (i : Nat) :
    c.unquoted.errorsAt i = (c.errorsAt i).map (·.unquoted) := by
  rw [Compilation.errorsAt, Compilation.unquoted, List.filter_map, Compilation.errorsAt]
  congr 2
  funext e
  exact congrArg (decide <| · = some i) e.location.position?_unquoted

lemma unquoted_entryErrors (i : Nat) (raw : Json) :
    (spec.entryErrors ctx i raw).map (·.unquoted) =
      (spec.faults ctx raw).map (⟨.entry i .null, ·⟩) := by
  rw [entryErrors, List.map_map]
  rfl

lemma getElem?_withoutRemarks {i : Nat} {raw : Json} (hraw : spec.entries[i]? = some raw) :
    spec.withoutRemarks.entries[i]? = some (stripped raw) := by
  rw [withoutRemarks, List.getElem?_map, hraw, Option.map_some]

/-- Outcomes are equal if they are entry by entry. -/
lemma unquoted_compile_eq_iff :
    (spec.withoutRemarks.compile ctx).unquoted = (spec.compile ctx).unquoted ↔
      ∀ i raw, spec.entries[i]? = some raw →
        (spec.rule? ctx i (stripped raw)).map (·.unquoted) =
            (spec.rule? ctx i raw).map (·.unquoted) ∧
          spec.faults ctx (stripped raw) = spec.faults ctx raw := by
  constructor
  · intro h i raw hraw
    have hrules : (spec.withoutRemarks.compile ctx).unquoted.rulesAt i =
        (spec.compile ctx).unquoted.rulesAt i := by rw [h]
    have herrors : (spec.withoutRemarks.compile ctx).unquoted.errorsAt i =
        (spec.compile ctx).unquoted.errorsAt i := by rw [h]
    rw [rulesAt_unquoted, rulesAt_unquoted, rulesAt_compile, rulesAt_compile, hraw,
      getElem?_withoutRemarks hraw] at hrules
    rw [errorsAt_unquoted, errorsAt_unquoted, errorsAt_compile, errorsAt_compile, hraw,
      getElem?_withoutRemarks hraw] at herrors
    constructor
    · have hhead := congrArg List.head? hrules
      simp only [Option.elim_some, ← Option.toList_map, Option.head?_toList] at hhead
      exact hhead
    · have hinj : Function.Injective (fun f : RuleFault => RuleError.mk (.entry i .null) f) :=
        fun f f' heq => congrArg RuleError.fault heq
      rw [Option.elim_some, Option.elim_some, unquoted_entryErrors, unquoted_entryErrors] at herrors
      exact List.map_injective_iff.2 hinj herrors
  · intro h
    have hentry : ∀ e ∈ spec.entries.zipIdx, spec.entries[e.2]? = some e.1 :=
      fun e he => List.mem_zipIdx_iff_getElem?.1 he
    have hrules : (spec.withoutRemarks.compile ctx).rulebook.rules.map (·.unquoted) =
        (spec.compile ctx).rulebook.rules.map (·.unquoted) := by
      rw [rules_compile_eq_filterMap, rules_compile_eq_filterMap, List.map_filterMap,
        List.map_filterMap, withoutRemarks, List.zipIdx_map, List.filterMap_map]
      exact List.filterMap_congr fun e he => (h e.2 e.1 (hentry e he)).1
    have herrors : (spec.withoutRemarks.compile ctx).errors.map (·.unquoted) =
        (spec.compile ctx).errors.map (·.unquoted) := by
      rw [errors_compile, errors_compile, List.map_append, List.map_append, List.map_flatMap,
        List.map_flatMap, withoutRemarks, List.zipIdx_map, List.flatMap_map]
      refine congrArg (· ++ spec.tableErrors.map _) (List.flatMap_congr fun e he => ?_)
      have hfaults := (h e.2 e.1 (hentry e he)).2
      exact (unquoted_entryErrors e.2 _).trans
        ((congrArg (List.map _) hfaults).trans (unquoted_entryErrors e.2 e.1).symm)
    rw [Compilation.unquoted, Compilation.unquoted, hrules, herrors]
    rfl

/-! ### Without remarks -/

lemma rel_rule?_stripped (i : Nat) (raw : Json) : Option.Rel Rule.Extends
    (spec.rule? ctx i (stripped raw)) (spec.rule? ctx i raw) := by
  cases raw with
  | obj entry =>
    cases hcomment : Rule.isComment entry with
    | true =>
      rw [stripped, if_pos hcomment, rule?, Rule.check, if_pos hcomment]
      exact .none
    | false =>
      rw [stripped_obj hcomment, rule?_obj (Rule.isComment_withoutRemarks hcomment),
        rule?_obj hcomment]
      exact Rule.rel_withoutRemarks
  | _ => exact .none

lemma sublist_faults_stripped (raw : Json) :
    (spec.faults ctx (stripped raw)).Sublist (spec.faults ctx raw) := by
  cases raw with
  | obj entry =>
    cases hcomment : Rule.isComment entry with
    | true => rw [stripped, if_pos hcomment]
    | false =>
      rw [stripped_obj hcomment, faults_obj (Rule.isComment_withoutRemarks hcomment),
        faults_obj hcomment]
      exact Rule.sublist_faults_withoutRemarks
  | _ => exact .refl _

variable (spec ctx)

lemma rules_withoutRemarks : List.Forall₂ Rule.Extends
    (spec.withoutRemarks.compile ctx).rulebook.rules (spec.compile ctx).rulebook.rules := by
  rw [rules_compile_eq_filterMap, rules_compile_eq_filterMap, withoutRemarks, List.zipIdx_map,
    List.filterMap_map]
  have hsame : List.Forall₂ Eq spec.entries.zipIdx spec.entries.zipIdx :=
    List.forall₂_same.2 fun _ _ => rfl
  refine List.rel_filterMap ?_ hsame
  rintro e _ rfl
  exact rel_rule?_stripped e.2 e.1

lemma errors_withoutRemarks : (spec.withoutRemarks.compile ctx).unquoted.errors.Sublist
    (spec.compile ctx).unquoted.errors := by
  show ((spec.withoutRemarks.compile ctx).errors.map _).Sublist ((spec.compile ctx).errors.map _)
  rw [errors_compile, errors_compile, List.map_append, List.map_append, List.map_flatMap,
    List.map_flatMap, withoutRemarks, List.zipIdx_map, List.flatMap_map]
  refine (List.Sublist.flatMap_right _ fun e _ => ?_).append_right _
  show ((spec.entryErrors ctx e.2 (stripped e.1)).map _).Sublist _
  rw [unquoted_entryErrors, unquoted_entryErrors]
  exact (sublist_faults_stripped e.1).map _

/--
Remarks add, but take nothing away: without them there are the same rules, maybe with fewer
patterns, clauses and mappings, and the same errors or fewer. Nothing at all changes in exactly
those specifications whose remarks leave no trace.
-/
theorem compile_withoutRemarks :
    List.Forall₂ Rule.Extends (spec.withoutRemarks.compile ctx).rulebook.rules
        (spec.compile ctx).rulebook.rules ∧
      (spec.withoutRemarks.compile ctx).unquoted.errors.Sublist
        (spec.compile ctx).unquoted.errors ∧
      ((spec.withoutRemarks.compile ctx).unquoted = (spec.compile ctx).unquoted ↔
        ∀ i entry, spec.entries[i]? = some (.obj entry) → Rule.isComment entry = false →
          ∀ m ∈ entry, isRemark m.1 → spec.LeavesNoTrace ctx i m) := by
  refine ⟨rules_withoutRemarks spec ctx, errors_withoutRemarks spec ctx, ?_⟩
  rw [unquoted_compile_eq_iff]
  constructor
  · intro h i entry hentry
    exact (stripped_iff hentry).1 (h i _ hentry) entry rfl
  · intro h i raw hraw
    refine (stripped_iff hraw).2 fun entry hentry => ?_
    subst hentry
    exact h i entry hraw

/-- An entry with a remark on its form types. -/
def notedEntry (key : String) : Members :=
  [("xbrl-names", .arr [.str "dei:DocumentType"]), ("validation", .str "f1"),
    ("efm", .str "6.5.20"), ("source", .str "both"), (key, .str "only for annual reports")]

/-- A specification of this entry. -/
def notedSpec (key : String) : RuleSpec :=
  { empty with entries := [.obj (notedEntry key)], validations := [("f1", .obj [])] }

/-- A remark whose key has the ending of clauses is reported as a malformed one. -/
theorem remark_counts :
    ¬ ∀ (spec : RuleSpec) (ctx : RunScope),
      (spec.withoutRemarks.compile ctx).unquoted = (spec.compile ctx).unquoted := by
  intro h
  have hnoted : ((notedSpec "comment-where").compile openScope).unquoted.errors.length = 1 := rfl
  have hstripped :
      ((notedSpec "comment-where").withoutRemarks.compile openScope).unquoted.errors.length = 0 :=
    rfl
  rw [← h, hstripped] at hnoted
  cases hnoted

/-- With another key the same remark has no effect. -/
theorem compile_withoutRemarks_comment :
    ((notedSpec "comment").withoutRemarks.compile openScope).unquoted =
      ((notedSpec "comment").compile openScope).unquoted := by
  obtain ⟨-, -, hiff⟩ := compile_withoutRemarks (notedSpec "comment") openScope
  rw [hiff]
  intro i entry hentry _ m hm hremark
  obtain ⟨⟩ := List.mem_singleton.1 (List.mem_of_getElem? hentry)
  have hkey : ∀ m ∈ notedEntry "comment", isRemark m.1 → m.1 = "comment" := by decide
  have hnamed : ∀ field ∈ Rule.namedParts, field.1 ≠ "comment" := by decide
  have hending : ∀ ending ∈ Rule.endingParts, ¬ Text.endsWith ending.1 "comment" := by decide
  left
  rw [hkey m hm hremark]
  intro part hfeeds
  cases hfeeds with
  | named h => exact hnamed _ h rfl
  | ending h hends _ => exact hending _ h hends

end RuleSpec

end Disclosure
