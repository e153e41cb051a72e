import MethodOfLines.Clock
import MethodOfLines.Stream.Pool

/-!
# Stepper/Script — a step as a list of commands

What a step asks of the pool is fixed before it starts: for each stage, for each grid in turn, to
install its parameters, evaluate its rates, correct them or not, run the kernel and correct its
result or not; then to wait for all streams. A kernel that cannot be launched is a refusal in its
place. A `Progress` is how far the commands have come, and they are issued until the first that
fails.
-/

namespace MethodOfLines

/-- **Where a stepper stands within a step.** -/
inductive Phase where
  /-- The stage of this number, from one, has not finished on every grid. -/
  | awaitingStage (number : Nat)
  | complete
  deriving DecidableEq, Repr

/-- **What a step did.** -/
structure Metrics where
  /-- Stages that finished. -/
  stages : Nat := 0
  /-- Kernels launched. -/
  launches : Nat := 0
  rhsEvaluations : Nat := 0
  boundaryApplications : Nat := 0
  radiationApplications : Nat := 0
  /-- Streams that own a grid. -/
  streamsUsed : Nat := 0
  deriving DecidableEq, Repr

/-- The counts with one more request served. -/
def Metrics.count {α : Type} (m : Metrics) : Request α → Metrics
  | .submit _ _ (.syncParams ..) => m
  | .submit _ _ (.evaluateRhs ..) => { m with rhsEvaluations := m.rhsEvaluations + 1 }
  | .submit _ _ (.applyRadiation ..) =>
    { m with radiationApplications := m.radiationApplications + 1 }
  | .submit _ _ (.launch ..) => { m with launches := m.launches + 1 }
  | .submit _ _ (.applyBoundary ..) =>
    { m with boundaryApplications := m.boundaryApplications + 1 }
  | .fence _ => { m with stages := m.stages + 1 }

/-- **A command of a step.** -/
inductive Command (α : Type) where
  /-- Begin a stage. -/
  | enter (stage : Stage α) (call : StageCall α)
  | report (event : Event α)
  /-- Give up. -/
  | refuse (error : DispatchError)
  /-- Ask something of the pool. -/
  | ask (request : Request α)

namespace Command

variable {α : Type}

/-- An operation on a grid. -/
def submit (b : Binding α) (call : StageCall α) (op : Op α) : Command α :=
  .ask (.submit b call op)

/-- A kernel over the whole of a grid. -/
def launch (blockSize : Nat) (stage : Stage α) (call : StageCall α) (b : Binding α) :
    List (Command α) :=
  match b.launch blockSize stage with
  | .error e => [.refuse e]
  | .ok work => [.report (b.launched stage work), submit b call (.kernel stage call work)]

/-- **The commands for one grid in one stage.** -/
def forGrid (blockSize : Nat) (policy : BoundaryPolicy) (stage : Stage α) (call : StageCall α)
    (b : Binding α) : List (Command α) :=
  [submit b call (.sync b.descriptor), submit b call (.rates stage call)]
    ++ (if policy.afterRhs then [submit b call (.radiation stage call)] else [])
    ++ launch blockSize stage call b
    ++ (if policy.afterStage then [submit b call (.boundary stage call)] else [])

/-- **The commands of one stage.** -/
def forStage (blockSize : Nat) (policy : Descriptor α → BoundaryPolicy) (grids : List (Binding α))
    (stage : Stage α) (call : StageCall α) : List (Command α) :=
  .enter stage call ::
    (grids.flatMap fun b => forGrid blockSize (policy b.descriptor) stage call b)
    ++ [.ask (.fence stage)]

/-- **The commands of a step** that starts at `time`. The time of a stage has a rounding for the
product and one for the sum. -/
def forStep [Scalar α] (blockSize : Nat) (policy : Descriptor α → BoundaryPolicy)
    (grids : List (Binding α)) (stages : List (Stage α)) (time dt : α) : List (Command α) :=
  stages.flatMap fun stage =>
    forStage blockSize policy grids stage (.ofStage stage (time + stage.c * dt) dt)

end Command

/-- **How far a step has come.** -/
structure Progress (σ α : Type) where
  pool : Pool σ α
  clock : Clock α
  phase : Phase
  metrics : Metrics
  /-- What has been reported, in order. -/
  events : List (Event α)

namespace Progress

variable {σ α : Type}

/-- The progress after an event. -/
def report (p : Progress σ α) (event : Event α) : Progress σ α :=
  { p with events := p.events ++ [event] }

/-- The progress at the start of a stage. -/
def enter (p : Progress σ α) (stage : Stage α) (call : StageCall α) : Progress σ α :=
  { p.report (.stageStarted stage.number stage.kernelName call.time) with
    phase := .awaitingStage stage.number
    clock := p.clock.setWorkingTime call.time }

variable [Scalar α]

/-- **One command issued.** A request is counted if it is served without error. -/
def issue (ops : Operators σ α) (p : Progress σ α) :
    Command α → Except StepError Unit × Progress σ α
  | .enter stage call => (.ok (), p.enter stage call)
  | .report event => (.ok (), p.report event)
  | .refuse error => (.error (.dispatch error), p)
  | .ask request =>
    match p.pool.serve ops request with
    | (.ok (), pool) => (.ok (), { p with pool, metrics := p.metrics.count request })
    | (.error e, pool) => (.error e, { p with pool })

/-- **Commands issued in order**, up to the first that fails. -/
def run (ops : Operators σ α) :
    List (Command α) → Progress σ α → Except StepError Unit × Progress σ α
  | [], p => (.ok (), p)
  | command :: rest, p =>
    match p.issue ops command with
    | (.ok (), p) => run ops rest p
    | (.error e, p) => (.error e, p)

end Progress

end MethodOfLines
