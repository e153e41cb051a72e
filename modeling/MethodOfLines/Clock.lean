import MethodOfLines.Scalar

/-!
# Clock — simulation time as a multiple of the step

A clock counts completed steps, and its time is that count times the step, rounded once; it is never
accumulated. During a step the time is moved to that of the running stage.
-/

namespace MethodOfLines

/-- A step that is not finite and positive. -/
structure InvalidTimestep (α : Type) where
  dt : α

/-- The text of a refused step, given how its numbers are written. -/
def InvalidTimestep.message {α : Type} (render : α → String) (e : InvalidTimestep α) : String :=
  "dt must be finite and positive, got " ++ render e.dt

/-- **Simulation time.** -/
structure Clock (α : Type) where
  time : α
  dt : α
  iteration : Nat

namespace Clock

variable {α : Type} [Scalar α]

/-- The time after `iteration` steps. -/
def timeAt (iteration : Nat) (dt : α) : α := (iteration : α) * dt

/-- **A clock that has made `iteration` steps**, if the step is finite and positive. -/
def resume (iteration : Nat) (dt : α) : Except (InvalidTimestep α) (Clock α) :=
  if Scalar.isFinite dt && Scalar.isPositive dt then
    .ok { time := timeAt iteration dt, dt, iteration }
  else .error ⟨dt⟩

omit [Scalar α] in
/-- The clock at another working time. -/
def setWorkingTime (c : Clock α) (time : α) : Clock α := { c with time }

/-- The clock back at the time of its count. -/
def recomputeTime (c : Clock α) : Clock α := { c with time := timeAt c.iteration c.dt }

/-- **The clock one step later.** -/
def completeStep (c : Clock α) : Clock α :=
  { c with time := timeAt (c.iteration + 1) c.dt, iteration := c.iteration + 1 }

end Clock

end MethodOfLines
