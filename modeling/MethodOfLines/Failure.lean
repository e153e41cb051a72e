import MethodOfLines.Grid.Error

/-!
# Failure — why a step fails

A step fails because a collaborator reports an error, or because a piece of work cannot be
dispatched to its stream. Each cause is a constructor; the wording is kept in one function per kind,
and `sources` lists the messages of the causes further down.
-/

namespace MethodOfLines

/-- The number of an execution stream. -/
abbrev StreamIndex := Nat

/-- **What a collaborator reports.** -/
inductive EvalError where
  | executionFailed (reason : String)
  /-- A value that is not finite, in a field and, if known, at a point. -/
  | nanDetected (field : Nat) (point : Option Nat)
  deriving DecidableEq, Repr

/-- The text of a collaborator's error. -/
def EvalError.message : EvalError → String
  | executionFailed reason => s!"execution failed: {reason}"
  | nanDetected field none => s!"NaN detected in field {field}"
  | nanDetected field (some point) => s!"NaN detected in field {field} at point {point}"

/-- **Why work is not dispatched.** -/
inductive DispatchFault where
  /-- The work cannot be cut into blocks. -/
  | invalidLaunch (reason : String)
  /-- The stream holds the parameters of another grid, or none. -/
  | staleParams (expected : GridId) (found : Option GridId)
  /-- The work does not cover the buffer. -/
  | bufferMismatch (expected actual : Nat)
  /-- The stream's worker is gone. -/
  | streamLost (stream : StreamIndex)
  deriving DecidableEq, Repr

/-- The text of a dispatch fault. -/
def DispatchFault.message : DispatchFault → String
  | invalidLaunch reason => s!"invalid launch: {reason}"
  | staleParams expected (some found) =>
    s!"stream parameters belong to grid {found}, expected grid {expected}"
  | staleParams expected none => s!"stream parameters never synced for grid {expected}"
  | bufferMismatch expected actual =>
    s!"launch covers {expected} elements but buffer holds {actual}"
  | streamLost stream => s!"stream {stream} lost"

/-- **A dispatch fault and the work it stopped.** -/
structure DispatchError where
  kernel : String
  /-- Stage number, from one. -/
  stage : Nat
  grid : GridId
  fault : DispatchFault
  deriving DecidableEq, Repr

/-- The text of a dispatch error. -/
def DispatchError.message (e : DispatchError) : String :=
  s!"kernel '{e.kernel}' (stage {e.stage}) failed on grid {e.grid}: {e.fault.message}"

/-- **Why a step fails.** -/
inductive StepError where
  | dispatch (error : DispatchError)
  | rhsFailed (grid : GridId) (stage : Nat) (reason : EvalError)
  | boundaryFailed (grid : GridId) (stage : Nat) (reason : EvalError)
  /-- An earlier step failed, so no further one is taken. -/
  | poisoned
  deriving DecidableEq, Repr

namespace StepError

/-- The text of a step's error. -/
def message : StepError → String
  | dispatch error => s!"dispatch failure: {error.message}"
  | rhsFailed grid stage reason =>
    s!"RHS evaluation failed on grid {grid} (stage {stage}): {reason.message}"
  | boundaryFailed grid stage reason =>
    s!"boundary enforcement failed on grid {grid} (stage {stage}): {reason.message}"
  | poisoned => "stepper poisoned by an earlier failed step"

/-- The texts of the causes below a step's error. -/
def sources : StepError → List String
  | dispatch error => [error.message]
  | rhsFailed _ _ reason | boundaryFailed _ _ reason => [reason.message]
  | poisoned => []

/-- The stage a failed step stopped at. -/
def stage? : StepError → Option Nat
  | dispatch error => some error.stage
  | rhsFailed _ stage _ | boundaryFailed _ stage _ => some stage
  | poisoned => none

end StepError

end MethodOfLines
