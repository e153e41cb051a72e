import MethodOfLines.Failure

/-!
# Event — what a stepper reports while it works

The issuing side reports what it does as a list of events, in the order in which it does it. An
event has a level, a message and named values; those are computed from it, so that the event itself
says only what happened.
-/

namespace MethodOfLines

/-- How urgent an event is. -/
inductive Level where
  | trace
  | debug
  | warn
  | error
  deriving DecidableEq, Repr

/-- A value attached to an event. -/
inductive EventValue (α : Type) where
  | count (n : Nat)
  | scalar (a : α)
  | text (s : String)

/-- **What happened.** -/
inductive Event (α : Type) where
  /-- The run-wide boundary tag names no known condition. -/
  | unknownOuterBoundary (tag : String)
  | stepperBuilt (scheme : String) (stages streams blockSize : Nat) (rhs boundary : String)
  /-- The boundary tag of a grid names no known condition. -/
  | unknownBoundary (grid : GridId) (tag : String)
  | stepStarted (iteration : Nat) (time dt : α) (grids : Nat)
  | stageStarted (stage : Nat) (kernel : String) (time : α)
  | launched (kernel : String) (grid : GridId) (stream : StreamIndex) (blocks blockSize : Nat)
  /-- A worker was found gone when its stream was closed. -/
  | workerLost (stream : StreamIndex)
  | stepFailed (iteration : Nat) (error : StepError)

namespace Event

variable {α : Type}

/-- The level of an event. -/
def level : Event α → Level
  | stageStarted .. | launched .. => .trace
  | stepperBuilt .. | stepStarted .. => .debug
  | unknownOuterBoundary .. | unknownBoundary .. => .warn
  | workerLost .. | stepFailed .. => .error

/-- The message of an event. -/
def message : Event α → String
  | unknownOuterBoundary .. => "unrecognised outer_bc_type, boundary calls skipped"
  | stepperBuilt .. => "stepper built"
  | unknownBoundary .. => "unrecognised boundary tag, boundary calls skipped"
  | stepStarted .. => "step"
  | stageStarted .. => "stage"
  | launched .. => "launch"
  | workerLost .. => "stream worker panicked"
  | stepFailed .. => "step failed, stepper poisoned"

/-- The named values of an event, in order. -/
def fields : Event α → List (String × EventValue α)
  | unknownOuterBoundary tag => [("tag", .text tag)]
  | stepperBuilt scheme stages streams blockSize rhs boundary =>
    [("scheme", .text scheme), ("stages", .count stages), ("streams", .count streams),
      ("block_size", .count blockSize), ("rhs", .text rhs), ("boundary", .text boundary)]
  | unknownBoundary grid tag => [("grid", .count grid), ("tag", .text tag)]
  | stepStarted iteration time dt grids =>
    [("iteration", .count iteration), ("time", .scalar time), ("dt", .scalar dt),
      ("grids", .count grids)]
  | stageStarted stage kernel time =>
    [("stage", .count stage), ("kernel", .text kernel), ("time", .scalar time)]
  | launched kernel grid stream blocks blockSize =>
    [("kernel", .text kernel), ("grid", .count grid), ("stream", .count stream),
      ("blocks", .count blocks), ("block_size", .count blockSize)]
  | workerLost stream => [("stream", .count stream)]
  | stepFailed iteration error => [("iteration", .count iteration), ("error", .text error.message)]

end Event

end MethodOfLines
