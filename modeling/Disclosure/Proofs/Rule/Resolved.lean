import Disclosure.Proofs.Rule.Kept
import Disclosure.Proofs.Token.Unfolding

/-!
# Resolved rules

Every field of an entry is either resolved or reported. So in a specification without errors each
rule holds all that its entry says: its constraint, its pattern of languages, and in the order of
the entry one pattern, mapping or clause for each field that is known by its ending, with groups
replaced by their full expansions (`resolved_of_no_errors`).
-/

namespace Disclosure

open Json (Members)

/-! ### Checks without faults -/

namespace Check

/-- Whether a check answers `a` and finds no fault. -/
def Yields {α : Type} (table : Members) (c : Check α) (a : α) : Prop :=
  c.answer table = a ∧ c.faults table = []

variable {α β : Type} {table : Members}

lemma not_yields_refuse {f : RuleFault} {a : Option α} :
    ¬ (refuse f : Check (Option α)).Yields table a := by
  rintro ⟨-, h⟩
  cases h

lemma yields_pure_iff {a b : α} : (pure a : Check α).Yields table b ↔ a = b := by
  simp [Yields]

lemma yields_bind_iff {c : Check α} {next : α → Check β} [Steady table c]
    [∀ a, Steady table (next a)] {b : β} :
    (c >>= next).Yields table b ↔ ∃ a, c.Yields table a ∧ (next a).Yields table b := by
  simp only [Yields, answer_bind, faults_bind, List.append_eq_nil_iff]
  constructor
  · rintro ⟨hb, hc, hnext⟩
    exact ⟨_, ⟨rfl, hc⟩, hb, hnext⟩
  · rintro ⟨a, ⟨rfl, hc⟩, hb, hnext⟩
    exact ⟨hb, hc, hnext⟩

/-- Checks of a list answer every element that is due, in order, and no other. -/
lemma Yields.forall₂ {check : α → Check (Option β)} [∀ a, Steady table (check a)]
    {due : α → Bool} {R : α → β → Prop} {as : List α} {bs : List β}
    (h : (collect check as).Yields table bs)
    (hskip : ∀ a, due a = false → (check a).answer table = none)
    (hdue : ∀ a b?, due a → (check a).Yields table b? → ∃ b, b? = some b ∧ R a b) :
    List.Forall₂ R (as.filter due) bs := by
  obtain ⟨rfl, hfaults⟩ := h
  rw [faults_collect, List.flatMap_eq_nil_iff] at hfaults
  rw [answer_collect]
  induction as with
  | nil => exact .nil
  | cons a as ih =>
    have ih := ih fun a' ha' => hfaults a' (List.mem_cons_of_mem a ha')
    cases hd : due a with
    | false =>
      rw [List.filter_cons_of_neg (by simp [hd])]
      simpa only [List.filterMap_cons, hskip a hd] using ih
    | true =>
      obtain ⟨b, hb, hR⟩ := hdue a _ hd ⟨rfl, hfaults a List.mem_cons_self⟩
      rw [List.filter_cons_of_pos hd]
      simpa only [List.filterMap_cons, hb] using List.Forall₂.cons hR ih

lemma yields_expansion_iff {ans : Except GroupError α} {field : String} {fallback a : α}
    {run : Resolver → Except GroupError α × Resolver} (h : (run (.ofTable table)).1 = ans) :
    (expansion field fallback run).Yields table a ↔ ans = .ok a := by
  rw [Yields, answer, faults, expansion_eq, h]
  cases ans <;> simp [settle]

lemma yields_expand_iff {field : String} {fallback tokens : Tokens} {raw : Json} :
    (expansion field fallback (·.expand raw)).Yields table tokens ↔
      unrollValue table raw = .ok tokens :=
  yields_expansion_iff ((Resolver.serves_ofTable table).expand raw).1

lemma yields_resolve_iff {field : String} {fallback s : Selection} {raw : Json} :
    (expansion field fallback (·.resolve raw)).Yields table s ↔
      (unrollValue table raw).map .ofTokens = .ok s :=
  yields_expansion_iff ((Resolver.serves_ofTable table).resolve raw).1

end Check

/-! ### Tokens without references -/

/-- Whether no token begins with the mark of references. -/
def Tokens.Resolved (ts : Tokens) : Prop :=
  ∀ t ∈ ts.items, t.toList.head? ≠ some groupMark

variable {table : Members} {field : String}

lemma resolved_of_unrollValue {raw : Json} {ts : Tokens} (h : unrollValue table raw = .ok ts) :
    ts.Resolved := by
  obtain ⟨leaves, ⟨tokens, -, htokens⟩, rfl⟩ := unfolds_unrollValue h
  intro t ht
  exact head?_ne_groupMark (htokens.not_reference t (Tokens.mem_items_ofList.1 ht))

namespace Rule

open Check (Yields)

lemma resolved_of_checkFieldValue {raw : Json} {ts : Tokens}
    (h : (checkFieldValue field raw).Yields table (.tokens ts)) : ts.Resolved := by
  rw [checkFieldValue] at h
  split_ifs at h
  · obtain ⟨ts', hts', heq⟩ := Check.yields_bind_iff.1 h
    cases Check.yields_pure_iff.1 heq
    exact resolved_of_unrollValue (Check.yields_expand_iff.1 hts')
  · cases Check.yields_pure_iff.1 h

lemma resolved_of_checkTokens {raw : Option Json} {ts : Tokens}
    (h : (checkTokens field raw).Yields table (.listed ts)) : ts.Resolved := by
  cases raw with
  | none =>
    cases Check.yields_pure_iff.1 h
    intro t ht
    cases ht
  | some raw =>
    have h := Check.yields_resolve_iff.1 h
    cases hr : unrollValue table raw with
    | error e =>
      rw [hr] at h
      cases h
    | ok ts' =>
      rw [hr, Except.map, Except.ok.injEq, Selection.ofTokens] at h
      split_ifs at h
      cases h
      exact resolved_of_unrollValue hr

/-! ### Constraints -/

lemma ofPattern?_of_checkPattern {raw : Json} {re? : Option Regex}
    (h : (checkPattern field raw).Yields table re?) :
    ∃ s re, raw = .str s ∧ Regex.ofPattern? s = some re ∧ re? = some re := by
  unfold checkPattern at h
  cases raw with
  | str s =>
    cases hre : Regex.ofPattern? s with
    | none =>
      simp only [ValueConstraint.readPattern, hre] at h
      cases Check.not_yields_refuse h
    | some re =>
      simp only [ValueConstraint.readPattern, hre] at h
      exact ⟨s, re, rfl, hre, (Check.yields_pure_iff.1 h).symm⟩
  | _ => cases Check.not_yields_refuse h

lemma isSome_of_checkLang {entry : Members} {lang : Option Regex}
    (h : (checkLang entry).Yields table lang) (hkey : entry.hasKey langField) : lang.isSome := by
  rw [checkLang] at h
  obtain ⟨raw, hraw⟩ := Option.isSome_iff_exists.1 hkey
  rw [hraw] at h
  obtain ⟨s, re, -, -, rfl⟩ := ofPattern?_of_checkPattern h
  rfl

lemma read_ne_oneOf {raw : Json} {ts : Tokens} :
    ValueConstraint.read field raw ≠ .ok (.oneOf ts) := by
  rw [ValueConstraint.read]
  intro h
  split_ifs at h
  · cases hp : ValueConstraint.readPattern raw.scalarText <;> simp [hp, Except.map] at h
  · cases hp : ValueConstraint.readRange ValueConstraint.readDecimal raw <;>
      simp [hp, Except.map] at h
  · cases hp : ValueConstraint.readRange (ValueConstraint.readDate ·.scalarText) raw <;>
      simp [hp, Except.map] at h
  · cases h

lemma resolved_of_checkConstraint {raw : Json} {union : Bool} {c? : Option ValueConstraint}
    (h : (checkConstraint field raw union).Yields table c?) :
    c?.isSome ∧ ∀ ts, c? = some (.oneOf ts) → ts.Resolved := by
  rw [checkConstraint] at h
  split_ifs at h
  · obtain ⟨ts, hts, heq⟩ := Check.yields_bind_iff.1 h
    cases Check.yields_pure_iff.1 heq
    refine ⟨rfl, fun ts' hts' => ?_⟩
    cases hts'
    exact resolved_of_unrollValue (Check.yields_expand_iff.1 hts)
  · cases hread : ValueConstraint.read field raw with
    | error e =>
      simp only [hread] at h
      cases Check.not_yields_refuse h
    | ok c =>
      simp only [hread] at h
      cases Check.yields_pure_iff.1 h
      refine ⟨rfl, fun ts hts => ?_⟩
      cases hts
      exact absurd hread read_ne_oneOf

lemma select_eq_none_iff {entry : Members} :
    ValueConstraint.select entry = none ↔
      ∀ field ∈ ValueConstraint.fields, entry.hasKey field = false := by
  simp [ValueConstraint.select, List.findSome?_eq_none_iff, hasKey_eq_false_iff]

lemma resolved_of_checkValue {entry : Members} {code : Option String} {c? : Option ValueConstraint}
    (h : (checkValue entry code).Yields table c?) :
    ((∃ field ∈ ValueConstraint.fields, entry.hasKey field) → c?.isSome) ∧
      ∀ ts, c? = some (.oneOf ts) → ts.Resolved := by
  rw [checkValue] at h
  cases hselect : ValueConstraint.select entry with
  | none =>
    simp only [hselect] at h
    obtain ⟨-, -, h⟩ := Check.yields_bind_iff.1 h
    cases Check.yields_pure_iff.1 h
    refine ⟨?_, nofun⟩
    rintro ⟨field, hfield, hkey⟩
    rw [select_eq_none_iff.1 hselect field hfield] at hkey
    cases hkey
  | some m =>
    simp only [hselect] at h
    obtain ⟨-, -, h⟩ := Check.yields_bind_iff.1 h
    obtain ⟨hsome, hresolved⟩ := resolved_of_checkConstraint h
    exact ⟨fun _ => hsome, hresolved⟩

/-! ### Fields known by their endings -/

lemma eq_append_of_dropEnd? {part s base : String} (h : Text.dropEnd? part s = some base) :
    s = base ++ part := by
  rw [Text.dropEnd?] at h
  split_ifs at h with hends
  cases h
  obtain ⟨front, hfront⟩ := Text.endsWith_iff.1 hends
  apply String.toList_injective
  rw [← hfront]
  simp

/-- Whether a key is that of a pattern for another field. -/
def isPatternKey (key : String) : Bool :=
  key ≠ ValueConstraint.patternField && Text.endsWith "-pattern" key

/-- Whether `p` is the pattern in a field, under the name of the field that it constrains. -/
def ResolvesPattern (m : String × Json) (p : String × Regex) : Prop :=
  m.1 = p.1 ++ "-pattern" ∧ ∃ s, m.2 = .str s ∧ Regex.ofPattern? s = some p.2

/-- Whether `p` is the mapping in a field, given in place or by the name of a group. -/
def ResolvesMap (classes : Members) (m : String × Json) (p : String × Members) : Prop :=
  p.1 = m.1 ∧ (m.2 = .obj p.2 ∨ ∃ reference name, m.2 = .str reference ∧
    referencedGroup? reference = some name ∧ classes.get? name = some (.obj p.2))

/-- Whether `d` is the condition `c`, replaced by its full expansion if it refers to groups. -/
def ResolvesCondition (classes : Members) (c : String × Json) (d : String × List Json) : Prop :=
  d.1 = c.1 ∧ ∃ items, c.2 = .arr items ∧
    if c.2.refersToGroup then
      ∃ leaves, c.2.Unfolds classes leaves ∧ d.2 = leaves.eraseDups.map .str
    else d.2 = items

/-- Whether `w` holds all conditions of a field. -/
def ResolvesClause (classes : Members) (m : String × Json) (w : Clause) : Prop :=
  w.field = m.1 ∧ ∃ conditions, m.2 = .obj conditions ∧
    List.Forall₂ (ResolvesCondition classes) conditions w.conditions

lemma answer_checkPatternFor_of_not {m : String × Json} (h : isPatternKey m.1 = false) :
    (checkPatternFor m).answer table = none := by
  rw [checkPatternFor]
  split_ifs with hkey
  · rfl
  · have hends : Text.endsWith "-pattern" m.1 = false := by simpa [isPatternKey, hkey] using h
    rw [Text.dropEnd?, hends]
    rfl

lemma resolvesPattern_of_check {m : String × Json} {p? : Option (String × Regex)}
    (hkey : isPatternKey m.1) (h : (checkPatternFor m).Yields table p?) :
    ∃ p, p? = some p ∧ ResolvesPattern m p := by
  obtain ⟨hne, hends⟩ := (Bool.and_eq_true _ _).mp hkey
  rw [checkPatternFor, if_neg (by simpa using hne)] at h
  cases hbase : Text.dropEnd? "-pattern" m.1 with
  | none => simp [Text.dropEnd?, hends] at hbase
  | some base =>
    simp only [hbase] at h
    obtain ⟨re?, hre, heq⟩ := Check.yields_bind_iff.1 h
    obtain ⟨s, re, hs, hpattern, rfl⟩ := ofPattern?_of_checkPattern hre
    exact ⟨(base, re), (Check.yields_pure_iff.1 heq).symm, eq_append_of_dropEnd? hbase, s, hs,
      hpattern⟩

lemma resolvesCondition_of_check {c : String × Json} {d? : Option (String × List Json)}
    (h : (checkCondition field c).Yields table d?) :
    ∃ d, d? = some d ∧ ResolvesCondition table c d := by
  obtain ⟨name, value⟩ := c
  unfold checkCondition at h
  cases value with
  | arr items =>
    simp only at h
    split_ifs at h with hrefers
    · obtain ⟨ts, hts, heq⟩ := Check.yields_bind_iff.1 h
      obtain ⟨leaves, hleaves, rfl⟩ := unfolds_unrollValue (Check.yields_expand_iff.1 hts)
      refine ⟨_, (Check.yields_pure_iff.1 heq).symm, rfl, items, rfl, ?_⟩
      rw [if_pos hrefers, Tokens.items_ofList]
      exact ⟨leaves, hleaves, rfl⟩
    · refine ⟨_, (Check.yields_pure_iff.1 h).symm, rfl, items, rfl, ?_⟩
      rw [if_neg hrefers]
  | _ => cases Check.not_yields_refuse h

lemma answer_checkWhere_of_not {m : String × Json} (h : Text.endsWith "where" m.1 = false) :
    (checkWhere m).answer table = none := by
  rw [checkWhere, h]
  rfl

lemma resolvesClause_of_check {m : String × Json} {w? : Option Clause}
    (hkey : Text.endsWith "where" m.1) (h : (checkWhere m).Yields table w?) :
    ∃ w, w? = some w ∧ ResolvesClause table m w := by
  obtain ⟨key, value⟩ := m
  rw [checkWhere, if_pos hkey] at h
  cases value with
  | obj conditions =>
    obtain ⟨resolved, hresolved, heq⟩ := Check.yields_bind_iff.1 h
    refine ⟨_, (Check.yields_pure_iff.1 heq).symm, rfl, conditions, rfl, ?_⟩
    have hall : List.Forall₂ (ResolvesCondition table) (conditions.filter fun _ => true) resolved :=
      hresolved.forall₂ (by simp) fun _ _ _ hd => resolvesCondition_of_check hd
    simpa using hall
  | _ => cases Check.not_yields_refuse h

lemma answer_checkValueMap_of_not {classes : Members} {m : String × Json}
    (h : Text.endsWith "value-map" m.1 = false) :
    (checkValueMap classes m).answer table = none := by
  rw [checkValueMap, h]
  rfl

lemma resolvesMap_of_check {classes : Members} {m : String × Json} {p? : Option (String × Members)}
    (hkey : Text.endsWith "value-map" m.1) (h : (checkValueMap classes m).Yields table p?) :
    ∃ p, p? = some p ∧ ResolvesMap classes m p := by
  obtain ⟨key, value⟩ := m
  rw [checkValueMap, if_pos hkey] at h
  cases value with
  | obj map => exact ⟨_, (Check.yields_pure_iff.1 h).symm, rfl, .inl rfl⟩
  | str reference =>
    cases hname : referencedGroup? reference with
    | none =>
      simp only [hname] at h
      cases Check.not_yields_refuse h
    | some name =>
      simp only [hname] at h
      cases hmap : classes.get? name with
      | none =>
        simp only [hmap] at h
        cases Check.not_yields_refuse h
      | some v =>
        simp only [hmap] at h
        cases v with
        | obj map =>
          exact ⟨_, (Check.yields_pure_iff.1 h).symm, rfl,
            .inr ⟨reference, name, rfl, hname, hmap⟩⟩
        | _ => cases Check.not_yields_refuse h
  | _ => cases Check.not_yields_refuse h

/-! ### Entries -/

/-- What the checks of an entry without faults have put into its rule. -/
structure Yielded (table : Members) (entry : Members) (r : Rule) : Prop where
  attributes : r.attributes = entry
  value : (checkValue entry (code? table entry)).Yields table r.value
  lang : (checkLang entry).Yields table r.lang
  references : (checkReferences entry).Yields table r.references
  subTypes : (checkSubTypes entry).Yields table r.subTypes
  formTypes : (checkFormTypes entry).Yields table r.formTypes
  patterns : (Check.collect checkPatternFor entry).Yields table r.patterns
  storedValues : (checkStoredValues entry).Yields table r.storedValues
  clauses : (Check.collect checkWhere entry).Yields table r.clauses
  valueMaps : (Check.collect (checkValueMap table) entry).Yields table r.valueMaps

set_option synthInstance.maxSize 10000 in
lemma yielded_of_checkMembers {ctx : RunScope} {spec : RuleSpec} {position : Nat}
    {entry : Members} {r : Rule}
    (h : (checkMembers ctx spec position entry).Yields spec.subTypeClasses (some r)) :
    Yielded spec.subTypeClasses entry r := by
  obtain ⟨hanswer, hfaults⟩ := h
  have hfaultless := faults_checkMembers_eq_nil_iff.1 hfaults
  simp only [checkMembers, Check.answer_bind, Check.answer_pure] at hanswer
  split at hanswer
  · split_ifs at hanswer
    cases hanswer
    exact {
      attributes := rfl
      value := ⟨rfl, hfaultless.value⟩
      lang := ⟨rfl, hfaultless.lang⟩
      references := ⟨rfl, hfaultless.references⟩
      subTypes := ⟨rfl, hfaultless.subTypes⟩
      formTypes := ⟨rfl, hfaultless.formTypes⟩
      patterns := ⟨rfl, hfaultless.patterns⟩
      storedValues := ⟨rfl, hfaultless.storedValues⟩
      clauses := ⟨rfl, hfaultless.clauses⟩
      valueMaps := ⟨rfl, hfaultless.valueMaps⟩ }
  · cases hanswer

lemma resolved_of_checkReferences {entry : Members} {refs : References} {ts : Tokens}
    (h : (checkReferences entry).Yields table (some refs))
    (hts : refs.condition = .values (.tokens ts)) : ts.Resolved := by
  rw [checkReferences] at h
  cases hraw : entry.get? referencesField with
  | none =>
    simp only [hraw] at h
    cases Check.yields_pure_iff.1 h
  | some raw =>
    simp only [hraw] at h
    cases hvalue : entry.get? referenceValueField with
    | none =>
      simp only [hvalue] at h
      obtain ⟨-, -, h⟩ := Check.yields_bind_iff.1 h
      cases Check.yields_pure_iff.1 h
      cases hts
    | some value =>
      simp only [hvalue] at h
      obtain ⟨-, -, h⟩ := Check.yields_bind_iff.1 h
      obtain ⟨field, hfield, heq⟩ := Check.yields_bind_iff.1 h
      cases Check.yields_pure_iff.1 heq
      cases hts
      exact resolved_of_checkFieldValue hfield

lemma resolved_of_checkStoredValues {entry : Members} {ts : Tokens}
    (h : (checkStoredValues entry).Yields table (some (.tokens ts))) : ts.Resolved := by
  rw [checkStoredValues] at h
  cases hraw : entry.get? storedValuesField with
  | none =>
    simp only [hraw] at h
    cases Check.yields_pure_iff.1 h
  | some raw =>
    simp only [hraw] at h
    obtain ⟨field, hfield, heq⟩ := Check.yields_bind_iff.1 h
    cases Check.yields_pure_iff.1 heq
    exact resolved_of_checkFieldValue hfield

/-- No string of a resolved condition begins with the mark of references. -/
lemma ResolvesCondition.no_reference {c : String × Json} {d : String × List Json}
    (h : ResolvesCondition table c d) {s : String} (hs : .str s ∈ d.2) :
    s.toList.head? ≠ some groupMark := by
  obtain ⟨-, items, hitems, h⟩ := h
  split_ifs at h with hrefers
  · obtain ⟨leaves, ⟨tokens, -, htokens⟩, hd⟩ := h
    rw [hd] at hs
    obtain ⟨t, ht, heq⟩ := List.mem_map.1 hs
    cases heq
    exact head?_ne_groupMark (htokens.not_reference s (List.mem_eraseDups.1 ht))
  · rw [h] at hs
    rw [hitems, Json.refersToGroup, List.any_eq_true] at hrefers
    apply head?_ne_groupMark
    by_contra hne
    exact hrefers ⟨.str s, hs, by simpa [Json.string?, Option.isSome_iff_ne_none] using hne⟩

/--
Whether a rule holds all that an entry says: one result for each field that is known by its ending,
in the order of the entry, and no reference to a group in the lists that are expanded.
-/
structure Resolves (classes : Members) (entry : Members) (r : Rule) : Prop where
  attributes : r.attributes = entry
  value : (∃ field ∈ ValueConstraint.fields, entry.hasKey field) → r.value.isSome
  lang : entry.hasKey langField → r.lang.isSome
  patterns : List.Forall₂ ResolvesPattern (entry.filter (isPatternKey ·.1)) r.patterns
  valueMaps : List.Forall₂ (ResolvesMap classes)
    (entry.filter (Text.endsWith "value-map" ·.1)) r.valueMaps
  clauses : List.Forall₂ (ResolvesClause classes)
    (entry.filter (Text.endsWith "where" ·.1)) r.clauses
  subTypes : ∀ ts, r.subTypes = .listed ts → ts.Resolved
  formTypes : ∀ ts, r.formTypes = .listed ts → ts.Resolved
  options : ∀ ts, r.value = some (.oneOf ts) → ts.Resolved
  storedValues : ∀ ts, r.storedValues = some (.tokens ts) → ts.Resolved
  referenceValues : ∀ refs ts, r.references = some refs →
    refs.condition = .values (.tokens ts) → ts.Resolved
  conditions : ∀ w ∈ r.clauses, ∀ d ∈ w.conditions, ∀ s, .str s ∈ d.2 →
    s.toList.head? ≠ some groupMark

lemma exists_of_mem_right {α β : Type} {R : α → β → Prop} {as : List α} {bs : List β}
    (h : List.Forall₂ R as bs) {b : β} (hb : b ∈ bs) : ∃ a, R a b := by
  induction h with
  | nil => cases hb
  | @cons a _ _ _ hab _ ih =>
    rcases List.mem_cons.1 hb with rfl | hb
    · exact ⟨a, hab⟩
    · exact ih hb

lemma Yielded.resolves {entry : Members} {r : Rule} (h : Yielded table entry r) :
    Resolves table entry r := by
  have hvalue := resolved_of_checkValue h.value
  have hclauses := h.clauses.forall₂ (fun _ => answer_checkWhere_of_not)
    fun _ _ hkey hw => resolvesClause_of_check hkey hw
  refine ⟨h.attributes, hvalue.1, isSome_of_checkLang h.lang, ?_, ?_, hclauses, ?_, ?_, hvalue.2,
    ?_, ?_, ?_⟩
  · exact h.patterns.forall₂ (fun _ => answer_checkPatternFor_of_not)
      fun _ _ hkey hp => resolvesPattern_of_check hkey hp
  · exact h.valueMaps.forall₂ (fun _ => answer_checkValueMap_of_not)
      fun _ _ hkey hp => resolvesMap_of_check hkey hp
  · intro ts hts
    exact resolved_of_checkTokens (hts ▸ h.subTypes)
  · intro ts hts
    exact resolved_of_checkTokens (hts ▸ h.formTypes)
  · intro ts hts
    exact resolved_of_checkStoredValues (hts ▸ h.storedValues)
  · intro refs ts hrefs hts
    exact resolved_of_checkReferences (hrefs ▸ h.references) hts
  · intro w hw d hd s hs
    obtain ⟨m, -, conditions, -, hconditions⟩ := exists_of_mem_right hclauses hw
    obtain ⟨c, hc⟩ := exists_of_mem_right hconditions hd
    exact hc.no_reference hs

end Rule

/-! ### Specifications -/

namespace RuleSpec

variable {spec : RuleSpec} {ctx : RunScope}

lemma exists_entry_of_mem_rules {r : Rule} (hr : r ∈ (spec.compile ctx).rulebook.rules) :
    ∃ raw, spec.entries[r.position]? = some raw ∧ spec.rule? ctx r.position raw = some r := by
  rw [rules_compile, List.mem_flatMap] at hr
  obtain ⟨⟨raw, i⟩, he, hr⟩ := hr
  have hr : spec.rule? ctx i raw = some r := Option.mem_toList.1 hr
  rw [position_of_rule? spec ctx hr]
  exact ⟨raw, List.mem_zipIdx_iff_getElem?.1 he, hr⟩

/-- Rules come from checking the members of entries that are no comments. -/
lemma exists_members_of_mem_rules {r : Rule} (hr : r ∈ (spec.compile ctx).rulebook.rules) :
    ∃ entry, spec.entries[r.position]? = some (.obj entry) ∧ Rule.isComment entry = false ∧
      (Rule.checkMembers ctx spec r.position entry).answer spec.subTypeClasses = some r := by
  obtain ⟨raw, hraw, hrule⟩ := exists_entry_of_mem_rules hr
  cases raw with
  | obj entry =>
    rw [rule?, Rule.check] at hrule
    split_ifs at hrule with hcomment
    · cases hrule
    · exact ⟨entry, hraw, by simpa using hcomment, hrule⟩
  | _ => cases hrule

/-- In a specification without errors, every rule holds all that its entry says. -/
theorem resolved_of_no_errors (hclean : (spec.compile ctx).hasNoErrors) {r : Rule}
    (hr : r ∈ (spec.compile ctx).rulebook.rules) :
    ∃ entry, spec.entries[r.position]? = some (.obj entry) ∧
      Rule.Resolves spec.subTypeClasses entry r := by
  obtain ⟨raw, hraw, hrule⟩ := exists_entry_of_mem_rules hr
  have hfaults : (Rule.check ctx spec r.position raw).faults spec.subTypeClasses = [] := by
    have he : (raw, r.position) ∈ spec.entries.zipIdx := List.mem_zipIdx_iff_getElem?.2 hraw
    rw [faults_eq]
    exact faults_of_errors (List.isEmpty_iff.1 hclean) he
  cases raw with
  | obj entry =>
    rw [Rule.check] at hfaults
    rw [rule?, Rule.check] at hrule
    split_ifs at hrule hfaults
    · cases hrule
    · exact ⟨entry, hraw, (Rule.yielded_of_checkMembers ⟨hrule, hfaults⟩).resolves⟩
  | _ => cases hrule

/-- A group of tokens, and a mapping. -/
def forms : Members :=
  [("annual", .arr [.str "10-K", .str "20-F"]),
    ("flags", .obj [("yes", .str "true"), ("no", .str "false")])]

/-- An entry that refers to both. -/
def formsEntry : Members :=
  [("xbrl-names", .arr [.str "dei:DocumentType"]), ("validation", .str "f1"),
    ("efm", .str "6.5.20"), ("source", .str "both"),
    ("sub-types", .arr [.str "@annual", .str "8-K"]),
    ("value", .arr [.arr [.str "x"], .str "@annual"]), ("dei-value-map", .str "@flags"),
    ("efm-where", .obj [("form", .arr [.str "@annual"]), ("state", .arr [.str "CA", .null])])]

/-- A specification of this entry. -/
def formsSpec : RuleSpec :=
  { empty with
    subTypeClasses := forms, entries := [.obj formsEntry], validations := [("f1", .obj [])] }

set_option synthInstance.maxSize 10000 in
lemma faults_formsEntry : formsSpec.faults openScope (.obj formsEntry) = [] := by
  have hwhere : (Check.collect Rule.checkWhere formsEntry).faults forms = [] := by
    rw [Check.faults_collect, formsEntry]
    simp only [List.flatMap_cons, List.flatMap_nil, List.append_eq_nil_iff]
    -- expansions do not unfold, so fields that hold references are evaluated
    exact ⟨rfl, rfl, rfl, rfl, rfl, rfl, rfl, by cbv, trivial⟩
  change (Rule.checkMembers openScope formsSpec 0 formsEntry).faults forms = []
  exact Rule.faults_checkMembers_eq_nil_iff.2 {
    required := List.flatMap_eq_nil_iff.1 rfl
    citation := rfl
    severity := rfl
    code := rfl
    referencesPresent := rfl
    value := by cbv
    lang := rfl
    codeKnown := rfl
    axis := rfl
    axisKnown := rfl
    message := rfl
    messageKnown := rfl
    source := rfl
    names := rfl
    references := rfl
    subTypes := by cbv
    formTypes := rfl
    patterns := rfl
    storedValues := rfl
    clauses := hwhere
    valueMaps := rfl
    kind := rfl }

theorem resolved_of_no_errors_forms :
    (formsSpec.compile openScope).hasNoErrors ∧
      ∃ r ∈ (formsSpec.compile openScope).rulebook.rules,
        ∃ entry, formsSpec.entries[r.position]? = some (.obj entry) ∧
          Rule.Resolves forms entry r := by
  have hclean : (formsSpec.compile openScope).hasNoErrors := by
    rw [Compilation.hasNoErrors, errors_compile, List.isEmpty_iff, List.append_eq_nil_iff]
    refine ⟨List.flatMap_eq_nil_iff.2 fun e he => ?_, rfl⟩
    cases List.mem_singleton.1 he
    exact List.map_eq_nil_iff.2 faults_formsEntry
  have hrule : (formsSpec.rule? openScope 0 (.obj formsEntry)).isSome :=
    isSome_rule? rfl rfl rfl faults_formsEntry
  obtain ⟨r, hr⟩ := Option.isSome_iff_exists.1 hrule
  have hmem : r ∈ (formsSpec.compile openScope).rulebook.rules := by
    rw [rules_compile]
    exact List.mem_flatMap.2 ⟨_, List.mem_singleton.2 rfl, Option.mem_toList.2 hr⟩
  exact ⟨hclean, r, hmem, resolved_of_no_errors hclean hmem⟩

end RuleSpec

end Disclosure
