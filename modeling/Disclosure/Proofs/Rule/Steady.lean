import Disclosure.Proofs.Token.Memo
import Disclosure.Rule.Compile

/-!
# Checks without a memory

Checks share the groups expanded so far, but none can tell: whatever is remembered, a check gives
the answer and reports the faults that it has with a fresh resolver (`Check.Steady`). Checks that
follow one another therefore have the answer of the last and the faults of all
(`answer_bind`, `faults_bind`).
-/

namespace Disclosure

open Json (Members)

namespace Check

variable {α β : Type} (table : Members)

/-- The answer with a fresh resolver. -/
def answer (c : Check α) : α :=
  (c (.ofTable table)).1

/-- The faults with a fresh resolver. -/
def faults (c : Check α) : List RuleFault :=
  (c (.ofTable table)).2.1

/-- A check that cannot tell which groups are remembered. -/
class Steady (c : Check α) : Prop where
  answer_eq : ∀ r : Resolver, r.Serves table → (c r).1 = c.answer table
  faults_eq : ∀ r : Resolver, r.Serves table → (c r).2.1 = c.faults table
  serves : ∀ r : Resolver, r.Serves table → (c r).2.2.Serves table

variable {table}

lemma Steady.run_eq {c : Check α} [h : Steady table c] {r : Resolver} (hr : r.Serves table) :
    ∃ r' : Resolver, r'.Serves table ∧ c r = (c.answer table, c.faults table, r') :=
  ⟨(c r).2.2, h.serves r hr, Prod.ext (h.answer_eq r hr) (Prod.ext (h.faults_eq r hr) rfl)⟩

/-! ### Sequences of checks -/

variable {c : Check α} {next : α → Check β}

@[simp] lemma answer_pure (a : α) : (pure a : Check α).answer table = a := rfl

@[simp] lemma faults_pure (a : α) : (pure a : Check α).faults table = [] := rfl

instance (a : α) : Steady table (pure a) where
  answer_eq _ _ := rfl
  faults_eq _ _ := rfl
  serves _ h := h

lemma serves_fresh [Steady table c] : (c (.ofTable table)).2.2.Serves table :=
  Steady.serves _ (Resolver.serves_ofTable table)

@[simp] lemma answer_bind [Steady table c] [∀ a, Steady table (next a)] :
    (c >>= next).answer table = (next (c.answer table)).answer table :=
  Steady.answer_eq (c := next (c.answer table)) _ serves_fresh

@[simp] lemma faults_bind [Steady table c] [∀ a, Steady table (next a)] :
    (c >>= next).faults table = c.faults table ++ (next (c.answer table)).faults table :=
  congrArg (c.faults table ++ ·)
    (Steady.faults_eq (c := next (c.answer table)) _ serves_fresh)

instance [hc : Steady table c] [hn : ∀ a, Steady table (next a)] : Steady table (c >>= next) where
  answer_eq r h := by
    rw [answer_bind, ← hc.answer_eq r h]
    exact (hn _).answer_eq _ (hc.serves r h)
  faults_eq r h := by
    rw [faults_bind, ← hc.answer_eq r h, ← hc.faults_eq r h]
    exact congrArg ((c r).2.1 ++ ·) ((hn _).faults_eq _ (hc.serves r h))
  serves r h := (hn _).serves _ (hc.serves r h)

/-! ### Single faults -/

@[simp] lemma faults_report (f : RuleFault) : (report f).faults table = [f] := rfl

instance (f : RuleFault) : Steady table (report f) where
  answer_eq _ _ := rfl
  faults_eq _ _ := rfl
  serves _ h := h

@[simp] lemma faults_reportIf (b : Bool) (f : RuleFault) :
    (reportIf b f).faults table = if b then [f] else [] := by
  cases b <;> rfl

instance (b : Bool) (f : RuleFault) : Steady table (reportIf b f) := by
  cases b
  · exact inferInstanceAs (Steady table (pure ()))
  · exact inferInstanceAs (Steady table (report f))

@[simp] lemma answer_refuse (f : RuleFault) : (refuse f : Check (Option α)).answer table = none :=
  rfl

@[simp] lemma faults_refuse (f : RuleFault) : (refuse f : Check (Option α)).faults table = [f] :=
  rfl

instance (f : RuleFault) : Steady table (refuse f : Check (Option α)) := by
  rw [refuse]
  infer_instance

/-! ### Expansions -/

/-- The answer and the faults that an expansion leads to. -/
def settle (field : String) (fallback : α) : Except GroupError α → α × List RuleFault
  | .ok a => (a, [])
  | .error e => (fallback, [.ofGroup field e])

lemma expansion_eq (field : String) (fallback : α)
    (run : Resolver → Except GroupError α × Resolver) (r : Resolver) :
    expansion field fallback run r =
      ((settle field fallback (run r).1).1, (settle field fallback (run r).1).2, (run r).2) := by
  rcases hr : run r with ⟨e | a, r'⟩ <;> simp only [expansion, hr, settle]

/-- An expansion is steady if its run always has one answer. -/
lemma steady_expansion {field : String} {fallback : α} {ans : Except GroupError α}
    {run : Resolver → Except GroupError α × Resolver}
    (h : ∀ r, r.Serves table → (run r).1 = ans ∧ (run r).2.Serves table) :
    Steady table (expansion field fallback run) := by
  have hfresh := (h _ (Resolver.serves_ofTable table)).1
  refine ⟨fun r hr => ?_, fun r hr => ?_, fun r hr => ?_⟩
  · rw [answer, expansion_eq, expansion_eq, (h r hr).1, hfresh]
  · rw [faults, expansion_eq, expansion_eq, (h r hr).1, hfresh]
  · rw [expansion_eq]
    exact (h r hr).2

instance (field : String) (fallback : Tokens) (raw : Json) :
    Steady table (expansion field fallback (·.expand raw)) :=
  steady_expansion fun _ h => h.expand raw

instance (field : String) (fallback : Selection) (raw : Json) :
    Steady table (expansion field fallback (·.resolve raw)) :=
  steady_expansion fun _ h => h.resolve raw

/-! ### Lists of checks -/

instance {check : α → Check (Option β)} [h : ∀ a, Steady table (check a)] (as : List α) :
    Steady table (collect check as) := by
  induction as with
  | nil => exact inferInstanceAs (Steady table (pure []))
  | cons a as ih =>
    rw [collect]
    infer_instance

@[simp] lemma answer_collect {check : α → Check (Option β)} [h : ∀ a, Steady table (check a)]
    (as : List α) :
    (collect check as).answer table = as.filterMap fun a => (check a).answer table := by
  induction as with
  | nil => rfl
  | cons a as ih =>
    rw [collect, answer_bind, answer_bind, answer_pure, ih, List.filterMap_cons]
    cases (check a).answer table <;> rfl

@[simp] lemma faults_collect {check : α → Check (Option β)} [h : ∀ a, Steady table (check a)]
    (as : List α) :
    (collect check as).faults table = as.flatMap fun a => (check a).faults table := by
  induction as with
  | nil => rfl
  | cons a as ih =>
    rw [collect, faults_bind, faults_bind, faults_pure, ih, List.append_nil, List.flatMap_cons]

instance {check : α → Check PUnit} [h : ∀ a, Steady table (check a)] (as : List α) :
    Steady table (as.forM check) := by
  induction as with
  | nil => exact inferInstanceAs (Steady table (pure ()))
  | cons a as ih => exact inferInstanceAs (Steady table (check a >>= fun _ => as.forM check))

@[simp] lemma faults_forM {check : α → Check PUnit} [h : ∀ a, Steady table (check a)]
    (as : List α) : (as.forM check).faults table = as.flatMap fun a => (check a).faults table := by
  induction as with
  | nil => rfl
  | cons a as ih =>
    change (check a >>= fun _ => as.forM check).faults table = _
    rw [faults_bind, ih, List.flatMap_cons]

end Check

namespace Rule

open Check (Steady)

variable (table : Members)

/-! ### Fields -/

instance (entry : Members) (field : String) : Steady table (checkString entry field) := by
  rw [checkString]
  split <;> infer_instance

instance (field : String) (raw : Json) : Steady table (checkPattern field raw) := by
  unfold checkPattern
  split
  · split <;> infer_instance
  · infer_instance

instance (kind : ReferenceKind) (names : Members) (name : Option String) :
    Steady table (checkKnown kind names name) := by
  unfold checkKnown
  split <;> infer_instance

instance (field : String) (raw : Json) : Steady table (checkFieldValue field raw) := by
  unfold checkFieldValue
  split <;> infer_instance

instance (field : String) (raw : Option Json) : Steady table (checkTokens field raw) := by
  unfold checkTokens
  split <;> infer_instance

instance (entry : Members) (field : String) : Steady table (checkPresent entry field) := by
  rw [checkPresent]
  infer_instance

instance (exhibitSpecific : Bool) (entry : Members) :
    Steady table (checkSeverity exhibitSpecific entry) := by
  rw [checkSeverity]
  infer_instance

instance (entry : Members) (code : Option String) :
    Steady table (checkReferencesPresent entry code) := by
  rw [checkReferencesPresent]
  infer_instance

instance (entry : Members) : Steady table (checkCitation entry) := by
  rw [checkCitation]
  split
  · split <;> infer_instance
  · infer_instance
  · infer_instance

instance (ctx : RunScope) (entry : Members) (storageOnly : Bool) :
    Steady table (checkSource ctx entry storageOnly) := by
  rw [checkSource]
  split
  · split <;> infer_instance
  · split <;> infer_instance
  · infer_instance

instance (ctx : RunScope) (entry : Members) (validation : Option String)
    (citation : Option Requirement) : Steady table (checkKind ctx entry validation citation) := by
  unfold checkKind
  split
  · infer_instance
  · infer_instance
  · split
    · infer_instance
    · split <;> infer_instance

instance (field : String) (raw : Json) (union : Bool) :
    Steady table (checkConstraint field raw union) := by
  rw [checkConstraint]
  split
  · infer_instance
  · split <;> infer_instance

instance (entry : Members) (code : Option String) : Steady table (checkValue entry code) := by
  rw [checkValue]
  cases ValueConstraint.select entry <;> infer_instance

instance (entry : Members) : Steady table (checkLang entry) := by
  rw [checkLang]
  split <;> infer_instance

instance (ctx : RunScope) (entry : Members) : Steady table (checkNames ctx entry) := by
  rw [checkNames]
  split
  · infer_instance
  · split <;> infer_instance

instance (entry : Members) : Steady table (checkReferences entry) := by
  rw [checkReferences]
  split
  · infer_instance
  · cases entry.get? referenceValueField <;> infer_instance

instance (entry : Members) : Steady table (checkSubTypes entry) := by
  rw [checkSubTypes]
  infer_instance

instance (entry : Members) : Steady table (checkFormTypes entry) := by
  rw [checkFormTypes]
  infer_instance

instance (m : String × Json) : Steady table (checkPatternFor m) := by
  rw [checkPatternFor]
  split
  · infer_instance
  · split <;> infer_instance

instance (entry : Members) : Steady table (checkStoredValues entry) := by
  rw [checkStoredValues]
  split <;> infer_instance

instance (field : String) (m : String × Json) : Steady table (checkCondition field m) := by
  rw [checkCondition]
  split
  · split <;> infer_instance
  · infer_instance

instance (m : String × Json) : Steady table (checkWhere m) := by
  rw [checkWhere]
  split
  · split <;> infer_instance
  · infer_instance

instance (classes : Members) (m : String × Json) : Steady table (checkValueMap classes m) := by
  rw [checkValueMap]
  split
  · split
    · infer_instance
    · split
      · infer_instance
      · split <;> infer_instance
    · infer_instance
  · infer_instance

/-! ### Entries -/

set_option synthInstance.maxSize 10000 in
instance (ctx : RunScope) (spec : RuleSpec) (position : Nat) (entry : Members) :
    Steady table (checkMembers ctx spec position entry) := by
  rw [checkMembers]
  infer_instance

instance (ctx : RunScope) (spec : RuleSpec) (position : Nat) (raw : Json) :
    Steady table (check ctx spec position raw) := by
  unfold check
  split
  · split <;> infer_instance
  · infer_instance

end Rule

end Disclosure
