import Mathlib.Data.List.Induction
import Disclosure.Proofs.Rule.Steady

/-!
# Entries one by one

A specification is compiled entry by entry with one resolver, which every entry leaves with more
groups expanded. Since no check can tell, what an entry contributes is what it contributes alone
(`compile_eq_alone`). The messages that the tables name are looked up after all entries.
-/

namespace Disclosure

open Json (Members)

/-! ### Positions -/

namespace Rule

/-- The rule of an entry at another position. -/
def movedTo (r : Rule) (position : Nat) : Rule :=
  { r with position }

end Rule

/-- The location of an entry moved to another position. -/
def Location.movedTo : Location → Nat → Location
  | .entry _ raw, position => .entry position raw
  | l, _ => l

namespace RuleError

/-- Whether an error was found in an entry. -/
def isInEntry (e : RuleError) : Bool :=
  e.location.position?.isSome

/-- The error of an entry at another position. -/
def movedTo (e : RuleError) (position : Nat) : RuleError :=
  { e with location := e.location.movedTo position }

end RuleError

namespace RuleSpec

/-- A specification with an entry as its only one. -/
def alone (spec : RuleSpec) (raw : Json) : RuleSpec :=
  { spec with entries := [raw] }

variable (spec : RuleSpec) (ctx : RunScope)

/-! ### The messages of the tables -/

/-- Whether an item of a table names a message that does not exist. -/
def Misses (item : Json) (message : String) : Prop :=
  item.get? Rule.messageField = some (.str message) ∧ spec.messages.hasKey message = false

/--
The errors of a table: one for each item that names a message that does not exist, at the location
of the item and in the order of the items.
-/
inductive MissedIn (location : String → Location) : Members → List RuleError → Prop where
  | nil : MissedIn location [] []
  | reported {key message : String} {item : Json} {table : Members} {errors : List RuleError}
      (hitem : spec.Misses item message) (htable : MissedIn location table errors) :
      MissedIn location ((key, item) :: table)
        (⟨location key, .unknownReference .message message⟩ :: errors)
  | passed {key : String} {item : Json} {table : Members} {errors : List RuleError}
      (hitem : ∀ message, ¬spec.Misses item message) (htable : MissedIn location table errors) :
      MissedIn location ((key, item) :: table) errors

variable {spec} {location : String → Location}

lemma messageError?_eq_some_iff {m : String × Json} {e : RuleError} :
    spec.messageError? location m = some e ↔
      ∃ message, spec.Misses m.2 message ∧
        e = ⟨location m.1, .unknownReference .message message⟩ := by
  rw [messageError?]
  split
  · next message hmessage =>
    constructor
    · intro h
      split_ifs at h with hkey
      exact ⟨message, ⟨hmessage, by simpa using hkey⟩, (Option.some.inj h).symm⟩
    · rintro ⟨other, ⟨hother, hkey⟩, rfl⟩
      obtain rfl : message = other := by simpa [hmessage] using hother
      rw [hkey, if_neg Bool.false_ne_true]
  · next hnot =>
    simp only [reduceCtorEq, false_iff, not_exists, not_and]
    rintro message ⟨hmessage, -⟩
    exact absurd hmessage (hnot message)

lemma messageError?_eq_none_iff {m : String × Json} :
    spec.messageError? location m = none ↔ ∀ message, ¬spec.Misses m.2 message := by
  simp only [Option.eq_none_iff_forall_ne_some, ne_eq, messageError?_eq_some_iff]
  constructor
  · intro h message hmisses
    exact h _ ⟨message, hmisses, rfl⟩
  · rintro h e ⟨message, hmisses, -⟩
    exact h message hmisses

lemma missedIn_iff {table : Members} {errors : List RuleError} :
    spec.MissedIn location table errors ↔
      errors = table.filterMap (spec.messageError? location) := by
  constructor
  · intro h
    induction h with
    | nil => rfl
    | reported hitem _ ih =>
      rw [List.filterMap_cons_some (messageError?_eq_some_iff.2 ⟨_, hitem, rfl⟩), ih]
    | passed hitem _ ih => rw [List.filterMap_cons_none (messageError?_eq_none_iff.2 hitem), ih]
  · rintro rfl
    induction table with
    | nil => exact .nil
    | cons m table ih =>
      cases herror : spec.messageError? location m with
      | none =>
        rw [List.filterMap_cons_none herror]
        exact .passed (messageError?_eq_none_iff.1 herror) ih
      | some e =>
        rw [List.filterMap_cons_some herror]
        obtain ⟨message, hitem, rfl⟩ := messageError?_eq_some_iff.1 herror
        exact .reported hitem ih

lemma mem_tableErrors_iff {e : RuleError} : e ∈ spec.tableErrors ↔
    ∃ location m message, (location = Location.axisValidation ∧ m ∈ spec.axisValidations ∨
        location = Location.validation ∧ m ∈ spec.validations) ∧
      spec.Misses m.2 message ∧ e = ⟨location m.1, .unknownReference .message message⟩ := by
  simp only [tableErrors, List.mem_append, List.mem_filterMap, messageError?_eq_some_iff]
  constructor
  · rintro (⟨m, hm, message, h⟩ | ⟨m, hm, message, h⟩)
    · exact ⟨.axisValidation, m, message, .inl ⟨rfl, hm⟩, h⟩
    · exact ⟨.validation, m, message, .inr ⟨rfl, hm⟩, h⟩
  · rintro ⟨location, m, message, ⟨rfl, hm⟩ | ⟨rfl, hm⟩, h⟩
    · exact .inl ⟨m, hm, message, h⟩
    · exact .inr ⟨m, hm, message, h⟩

lemma position?_of_mem_tableErrors {e : RuleError} (h : e ∈ spec.tableErrors) :
    e.location.position? = none := by
  obtain ⟨location, m, message, ⟨rfl, -⟩ | ⟨rfl, -⟩, -, rfl⟩ := mem_tableErrors_iff.1 h
  · rfl
  · rfl

variable (spec)

/-! ### The outcome of an entry -/

/-- The rule that an entry becomes. -/
def rule? (position : Nat) (raw : Json) : Option Rule :=
  (Rule.check ctx spec position raw).answer spec.subTypeClasses

/-- The faults of an entry. -/
def faults (raw : Json) : List RuleFault :=
  (Rule.check ctx spec 0 raw).faults spec.subTypeClasses

set_option synthInstance.maxSize 10000 in
lemma answer_checkMembers_movedTo (table : Members) (position : Nat) (entry : Members) :
    (Rule.checkMembers ctx spec position entry).answer table =
      ((Rule.checkMembers ctx spec 0 entry).answer table).map (·.movedTo position) := by
  simp only [Rule.checkMembers, Check.answer_bind, Check.answer_pure]
  split
  · split_ifs <;> rfl
  · rfl

set_option synthInstance.maxSize 10000 in
lemma faults_checkMembers_zero (table : Members) (position : Nat) (entry : Members) :
    (Rule.checkMembers ctx spec position entry).faults table =
      (Rule.checkMembers ctx spec 0 entry).faults table := by
  simp only [Rule.checkMembers, Check.faults_bind, Check.faults_pure]

/-- The position is a label. -/
lemma rule?_eq (position : Nat) (raw : Json) :
    spec.rule? ctx position raw = (spec.rule? ctx 0 raw).map (·.movedTo position) := by
  cases raw with
  | obj entry =>
    rw [rule?, rule?, Rule.check, Rule.check]
    split_ifs
    · rfl
    · exact answer_checkMembers_movedTo spec ctx _ position entry
  | _ => rfl

lemma faults_eq (position : Nat) (raw : Json) :
    (Rule.check ctx spec position raw).faults spec.subTypeClasses = spec.faults ctx raw := by
  cases raw with
  | obj entry =>
    rw [faults, Rule.check, Rule.check]
    split_ifs
    · rfl
    · exact faults_checkMembers_zero spec ctx _ position entry
  | _ => rfl

/-- The rule of an entry bears its position. -/
lemma position_of_rule? {position : Nat} {raw : Json} {r : Rule}
    (h : spec.rule? ctx position raw = some r) : r.position = position := by
  rw [rule?_eq, Option.map_eq_some_iff] at h
  obtain ⟨r', _, rfl⟩ := h
  rfl

/-- The errors of an entry. -/
def entryErrors (position : Nat) (raw : Json) : List RuleError :=
  (spec.faults ctx raw).map (⟨.entry position raw, ·⟩)

/-! ### The outcome of all entries -/

lemma compileEntries_eq (entries : List Json) (position : Nat) {r : Resolver}
    (h : r.Serves spec.subTypeClasses) :
    spec.compileEntries ctx position r entries =
      ((entries.zipIdx position).flatMap fun e => (spec.rule? ctx e.2 e.1).toList,
        (entries.zipIdx position).flatMap fun e => spec.entryErrors ctx e.2 e.1) := by
  induction entries generalizing position r with
  | nil => rfl
  | cons raw rest ih =>
    obtain ⟨r', hr', hrun⟩ := Check.Steady.run_eq (c := Rule.check ctx spec position raw) h
    simp only [compileEntries, hrun, ih (position + 1) hr', faults_eq]
    rfl

lemma rules_compile : (spec.compile ctx).rulebook.rules =
    spec.entries.zipIdx.flatMap fun e => (spec.rule? ctx e.2 e.1).toList := by
  rw [compile, compileEntries_eq spec ctx _ _ (Resolver.serves_ofTable _)]

lemma rules_compile_eq_filterMap : (spec.compile ctx).rulebook.rules =
    spec.entries.zipIdx.filterMap fun e => spec.rule? ctx e.2 e.1 := by
  rw [rules_compile, List.filterMap_eq_flatMap_toList]

lemma errors_compile : (spec.compile ctx).errors =
    (spec.entries.zipIdx.flatMap fun e => spec.entryErrors ctx e.2 e.1) ++ spec.tableErrors := by
  rw [compile, compileEntries_eq spec ctx _ _ (Resolver.serves_ofTable _)]

lemma position?_of_mem_entryErrors {position : Nat} {raw : Json} {e : RuleError}
    (h : e ∈ spec.entryErrors ctx position raw) : e.location.position? = some position := by
  obtain ⟨f, _, rfl⟩ := List.mem_map.1 h
  rfl

/-! ### One entry alone -/

lemma rules_compile_alone (raw : Json) :
    ((spec.alone raw).compile ctx).rulebook.rules = (spec.rule? ctx 0 raw).toList :=
  (rules_compile (spec.alone raw) ctx).trans (List.flatMap_singleton _ _)

lemma errors_compile_alone (raw : Json) :
    ((spec.alone raw).compile ctx).errors = spec.entryErrors ctx 0 raw ++ spec.tableErrors :=
  (errors_compile (spec.alone raw) ctx).trans
    (congrArg (· ++ spec.tableErrors) (List.flatMap_singleton _ _))

lemma rules_alone (raw : Json) (position : Nat) :
    ((spec.alone raw).compile ctx).rulebook.rules.map (·.movedTo position) =
      (spec.rule? ctx position raw).toList := by
  rw [rules_compile_alone, rule?_eq spec ctx position]
  cases spec.rule? ctx 0 raw <;> rfl

lemma errors_alone (raw : Json) (position : Nat) :
    (((spec.alone raw).compile ctx).errors.filter (·.isInEntry)).map (·.movedTo position) =
      spec.entryErrors ctx position raw := by
  have hentry : (spec.entryErrors ctx 0 raw).filter (·.isInEntry) = spec.entryErrors ctx 0 raw := by
    rw [List.filter_eq_self]
    intro e he
    simp [RuleError.isInEntry, spec.position?_of_mem_entryErrors ctx he]
  have htable : spec.tableErrors.filter (·.isInEntry) = [] := by
    rw [List.filter_eq_nil_iff]
    intro e he
    simp [RuleError.isInEntry, position?_of_mem_tableErrors he]
  rw [errors_compile_alone, List.filter_append, hentry, htable, List.append_nil, entryErrors,
    entryErrors, List.map_map]
  rfl

end RuleSpec

/-! ### One entry among others -/

namespace Compilation

/-- The rules at a position. -/
def rulesAt (c : Compilation) (position : Nat) : List Rule :=
  c.rulebook.rules.filter (·.position = position)

/-- The errors of the entry at a position. -/
def errorsAt (c : Compilation) (position : Nat) : List RuleError :=
  c.errors.filter (·.location.position? = some position)

end Compilation

/-- What was found at a position, of everything found at the positions of a list. -/
lemma filter_flatMap_zipIdx {α β : Type} {f : α × Nat → List β} {position? : β → Option Nat}
    (h : ∀ e, ∀ b ∈ f e, position? b = some e.2) (as : List α) (i : Nat) :
    (as.zipIdx.flatMap f).filter (position? · = some i) =
      (as[i]?).elim [] fun a => f (a, i) := by
  induction as using List.reverseRecOn with
  | nil => rfl
  | append_singleton as a ih =>
    rw [List.zipIdx_append, List.flatMap_append, List.filter_append, ih, Nat.zero_add,
      List.zipIdx_singleton, List.flatMap_singleton]
    by_cases hi : i = as.length
    · subst hi
      have hself : (f (a, as.length)).filter (position? · = some as.length) =
          f (a, as.length) := by
        rw [List.filter_eq_self]
        intro b hb
        simpa using h _ b hb
      rw [hself]
      simp
    · have hnil : (f (a, as.length)).filter (position? · = some i) = [] := by
        rw [List.filter_eq_nil_iff]
        intro b hb
        rw [h _ b hb]
        simpa using Ne.symm hi
      rw [hnil, List.append_nil]
      by_cases hlt : i < as.length
      · rw [List.getElem?_append_left hlt]
      · rw [List.getElem?_eq_none (by omega), List.getElem?_eq_none (by simp; omega)]

namespace RuleSpec

variable (spec : RuleSpec) (ctx : RunScope)

lemma rulesAt_compile (i : Nat) : (spec.compile ctx).rulesAt i =
    (spec.entries[i]?).elim [] fun raw => (spec.rule? ctx i raw).toList := by
  have hposition : ∀ (e : Json × Nat), ∀ r ∈ (spec.rule? ctx e.2 e.1).toList,
      some r.position = some e.2 := by
    intro e r hr
    rw [position_of_rule? spec ctx (Option.mem_toList.1 hr)]
  have h := filter_flatMap_zipIdx hposition spec.entries i
  simpa [Compilation.rulesAt, rules_compile] using h

lemma errorsAt_compile (i : Nat) : (spec.compile ctx).errorsAt i =
    (spec.entries[i]?).elim [] fun raw => spec.entryErrors ctx i raw := by
  have htable : spec.tableErrors.filter (·.location.position? = some i) = [] := by
    rw [List.filter_eq_nil_iff]
    intro e he
    simp [position?_of_mem_tableErrors he]
  rw [Compilation.errorsAt, errors_compile, List.filter_append, htable, List.append_nil]
  exact filter_flatMap_zipIdx (fun e _ => spec.position?_of_mem_entryErrors ctx) spec.entries i

lemma positions_increasing :
    ((spec.compile ctx).rulebook.rules.map (·.position)).Pairwise (· < ·) := by
  have hindex : spec.entries.zipIdx.Pairwise fun e e' => e.2 < e'.2 := by
    rw [← List.pairwise_map, List.zipIdx_map_snd]
    exact List.pairwise_lt_range'
  rw [rules_compile_eq_filterMap, List.pairwise_map]
  refine hindex.filterMap _ fun e e' hlt r hr r' hr' => ?_
  rwa [position_of_rule? spec ctx hr, position_of_rule? spec ctx hr']

/--
Compilation is compositional: the rules and errors of the entries are those of every entry alone,
moved to its position, and the errors of the tables follow. These are the messages missed by the
axis validations and then those missed by the validations, each in the order of the table. So an
entry contributes the same among any other entries, and rules come in the order of their positions.
-/
theorem compile_eq_alone :
    (spec.compile ctx).rulebook.rules = spec.entries.zipIdx.flatMap (fun e =>
        ((spec.alone e.1).compile ctx).rulebook.rules.map (·.movedTo e.2)) ∧
      (spec.compile ctx).errors = spec.entries.zipIdx.flatMap (fun e =>
        (((spec.alone e.1).compile ctx).errors.filter (·.isInEntry)).map (·.movedTo e.2)) ++
          spec.tableErrors ∧
      (∃ axisErrors errors, spec.tableErrors = axisErrors ++ errors ∧
        spec.MissedIn .axisValidation spec.axisValidations axisErrors ∧
        spec.MissedIn .validation spec.validations errors) ∧
      (∀ (entries : List Json) (i : Nat), entries[i]? = spec.entries[i]? →
        ({ spec with entries }.compile ctx).rulesAt i = (spec.compile ctx).rulesAt i ∧
          ({ spec with entries }.compile ctx).errorsAt i = (spec.compile ctx).errorsAt i) ∧
      ((spec.compile ctx).rulebook.rules.map (·.position)).Pairwise (· < ·) := by
  refine ⟨?_, ?_, ?_, fun entries i h => ⟨?_, ?_⟩, positions_increasing spec ctx⟩
  · simp only [rules_alone]
    exact rules_compile spec ctx
  · simp only [errors_alone]
    exact errors_compile spec ctx
  · exact ⟨_, _, rfl, missedIn_iff.2 rfl, missedIn_iff.2 rfl⟩
  · rw [rulesAt_compile, rulesAt_compile, h]
    rfl
  · rw [errorsAt_compile, errorsAt_compile, h]
    rfl

end RuleSpec

end Disclosure
