/-!
# Grid/Word — sizes that fit a machine word

Counts are natural numbers, and the few that are formed from outside input are formed with a check:
a sum or product that reaches `2^64` is no count. A product that is formed without a check comes out
as the arithmetic of the machine has it, which may stop there or go on with the low digits.
-/

namespace MethodOfLines

/-- **What becomes of a product that does not fit** and is not checked. -/
inductive Overflow where
  /-- The computation does not go on. -/
  | stops
  /-- It goes on with the product modulo `2^64`. -/
  | wraps
  deriving DecidableEq, Repr

namespace Word

/-- The first number that does not fit. -/
def limit : Nat := 0x10000000000000000

/-- A number, if it fits. -/
def ofNat? (n : Nat) : Option Nat :=
  if n < limit then some n else none

/-- The sum, if it fits. -/
def add? (m n : Nat) : Option Nat := ofNat? (m + n)

/-- The product, if it fits. -/
def mul? (m n : Nat) : Option Nat := ofNat? (m * n)

/-- The product as the machine has it; none if it stops there. -/
def product? (overflow : Overflow) (m n : Nat) : Option Nat :=
  match overflow with
  | .stops => mul? m n
  | .wraps => some (m * n % limit)

theorem ofNat?_eq_some {n k : Nat} : ofNat? n = some k ↔ n = k ∧ k < limit := by
  unfold ofNat?
  split <;> simp <;> omega

theorem add?_eq_some {m n k : Nat} : add? m n = some k ↔ m + n = k ∧ k < limit :=
  ofNat?_eq_some

theorem mul?_eq_some {m n k : Nat} : mul? m n = some k ↔ m * n = k ∧ k < limit :=
  ofNat?_eq_some

/-- A product that fits is the product. -/
theorem product?_of_mul? {m n k : Nat} (overflow : Overflow) (h : mul? m n = some k) :
    product? overflow m n = some k := by
  cases overflow with
  | stops => exact h
  | wraps =>
    obtain ⟨rfl, hlt⟩ := mul?_eq_some.mp h
    exact congrArg some (Nat.mod_eq_of_lt hlt)

/-- **The machine stops at a product** if it does so at those that do not fit, and it does not. -/
theorem product?_eq_none {overflow : Overflow} {m n : Nat} :
    product? overflow m n = none ↔ overflow = .stops ∧ limit ≤ m * n := by
  cases overflow with
  | stops => simp [product?, mul?, ofNat?]
  | wraps => simp [product?]

end Word

end MethodOfLines
