import Disclosure.Rule.Error

/-!
# Checks

A check always gives an answer, and reports every fault that it finds on the way. Checks that
follow one another share the groups expanded so far.
-/

namespace Disclosure

/-- An answer, the faults found on the way to it, and the resolver afterwards. -/
def Check (α : Type) : Type :=
  Resolver → α × List RuleFault × Resolver

namespace Check

instance : Monad Check where
  pure a := fun r => (a, [], r)
  bind check next := fun r =>
    let (a, faults, r) := check r
    let (b, more, r) := next a r
    (b, faults ++ more, r)

/-- Report a fault. -/
def report (f : RuleFault) : Check Unit :=
  fun r => ((), [f], r)

/-- Report a fault if a condition holds. -/
def reportIf (c : Bool) (f : RuleFault) : Check Unit :=
  if c then report f else pure ()

/-- Report a fault, and go on without a value. -/
def refuse {α : Type} (f : RuleFault) : Check (Option α) := do
  report f
  return none

/--
The answer of an expansion. If it fails, the fault of `field` is reported and `fallback` stands in.
-/
def expansion {α : Type} (field : String) (fallback : α)
    (run : Resolver → Except GroupError α × Resolver) : Check α :=
  fun r =>
    match run r with
    | (.ok a, r) => (a, [], r)
    | (.error e, r) => (fallback, [.ofGroup field e], r)

/-- Check every element of a list, and keep the answers there are. -/
def collect {α β : Type} (check : α → Check (Option β)) : List α → Check (List β)
  | [] => pure []
  | a :: as => do
    let b? ← check a
    let bs ← collect check as
    return b?.toList ++ bs

end Check

end Disclosure
