import MethodOfLines.Operator.Context

/-!
# Operator/Basic — collaborators

The rates and the boundary are supplied by two collaborators: an `Rhs` writes the rates of one
buffer into another, and an `Enforcer` corrects values or rates at the boundary. A call can succeed,
report an error, or crash, and whatever it wrote until then stays in the buffer it was given; the
buffer keeps its length. What collaborators remember between calls is a value `σ`, shared by all
streams and handed from call to call; a collaborator without memory is one for every `σ`.
-/

namespace MethodOfLines

/-- **How a call ends.** -/
inductive Outcome where
  | done
  | failed (reason : EvalError)
  /-- The call does not return; the worker that made it is gone. -/
  | crashed
  deriving DecidableEq, Repr

/-- **What a call leaves behind**: how it ended, the buffer it wrote, and the shared memory. -/
structure Reply (σ α : Type) (n : Nat) where
  outcome : Outcome
  buffer : Vector α n
  shared : σ

/-- **The spatial right-hand side.** -/
structure Rhs (σ α : Type) where
  name : String
  /-- Write the rates of `input` over `output`. -/
  evaluate :
    {m n : Nat} → Context α → (input : Vector α m) → (output : Vector α n) → σ → Reply σ α n

/-- **The boundary enforcer.** -/
structure Enforcer (σ α : Type) where
  name : String
  /-- Correct freshly updated values. -/
  apply : {n : Nat} → Context α → (values : Vector α n) → σ → Reply σ α n
  /-- Correct the rates of `input`. -/
  applyRadiation :
    {m n : Nat} → Context α → (input : Vector α m) → (rates : Vector α n) → σ → Reply σ α n

/-- **The collaborators of a stepper**, shared by all its streams, and how these work. -/
structure Operators (σ α : Type) where
  rhs : Rhs σ α
  boundary : Enforcer σ α
  /-- Whether the rates are searched for values that are not finite. -/
  checkFinite : Bool
  /-- What a product of sizes does that does not fit. -/
  overflow : Overflow := .stops

/-- A part of a larger memory. -/
structure Part (τ σ : Type) where
  get : τ → σ
  set : σ → τ → τ

/-- The right-hand side, remembering in a part of a larger memory. -/
def Rhs.within {σ τ α : Type} (part : Part τ σ) (rhs : Rhs σ α) : Rhs τ α where
  name := rhs.name
  evaluate ctx input output memory :=
    let r := rhs.evaluate ctx input output (part.get memory)
    ⟨r.outcome, r.buffer, part.set r.shared memory⟩

/-- The enforcer, remembering in a part of a larger memory. -/
def Enforcer.within {σ τ α : Type} (part : Part τ σ) (boundary : Enforcer σ α) : Enforcer τ α where
  name := boundary.name
  apply ctx values memory :=
    let r := boundary.apply ctx values (part.get memory)
    ⟨r.outcome, r.buffer, part.set r.shared memory⟩
  applyRadiation ctx input rates memory :=
    let r := boundary.applyRadiation ctx input rates (part.get memory)
    ⟨r.outcome, r.buffer, part.set r.shared memory⟩

/-! ## The search for values that are not finite -/

/-- **Whether all values are finite**; otherwise the field and point of the first that is not. -/
def checkFinite {α : Type} [Scalar α] (points : Nat) (values : Array α) : Except EvalError Unit :=
  if points = 0 then .ok ()
  else match values.findIdx? (!Scalar.isFinite ·) with
    | none => .ok ()
    | some i => .error (.nanDetected (i / points) (some (i % points)))

end MethodOfLines
