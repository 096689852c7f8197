/-!
# Powers of two and ten

The powers that scale numbers and bound the words of a machine.
-/

namespace Disclosure

/-- The power of two with exponent `k`. -/
def twoTo (k : Nat) : Nat :=
  Nat.pow 2 k

/-- The power of ten with exponent `k`. -/
def tenTo (k : Nat) : Nat :=
  Nat.pow 10 k

@[simp] theorem twoTo_zero : twoTo 0 = 1 := rfl

theorem twoTo_succ (k : Nat) : twoTo (k + 1) = twoTo k * 2 := rfl

theorem twoTo_pos (k : Nat) : 0 < twoTo k :=
  Nat.pow_pos (by decide)

@[simp] theorem tenTo_zero : tenTo 0 = 1 := rfl

theorem tenTo_succ (k : Nat) : tenTo (k + 1) = tenTo k * 10 := rfl

theorem tenTo_pos (k : Nat) : 0 < tenTo k :=
  Nat.pow_pos (by decide)

end Disclosure
