import MethodOfLines.Stepper.Basic

/-!
# Stepper/Run — steps one after the other

A `Run` is a stepper with everything a step changes. Several steps are taken until one fails.
-/

namespace MethodOfLines

/-- **A stepper under way**: its clock, its grids, and what the collaborators remember. -/
structure Run (σ α : Type) [Scalar α] where
  stepper : Stepper σ α
  clock : Clock α
  grids : List (Grid α)
  memory : σ

namespace Run

variable {σ α : Type} [Scalar α]

/-- **One step**, with its result and what it reported. -/
def step (r : Run σ α) : Except StepError (Report α) × List (Event α) × Run σ α :=
  let a := r.stepper.step r.clock r.grids r.memory
  (a.result, a.events, ⟨a.stepper, a.clock, a.grids, a.memory⟩)

/-- **Up to `n + 1` steps**, fewer if one fails; the result is that of the last one taken. -/
def steps (r : Run σ α) : Nat → Except StepError (Report α) × List (Event α) × Run σ α
  | 0 => r.step
  | n + 1 =>
    match r.step with
    | (.error e, events, r) => (.error e, events, r)
    | (.ok _, events, r) =>
      let (result, later, r) := r.steps n
      (result, events ++ later, r)

end Run

end MethodOfLines
