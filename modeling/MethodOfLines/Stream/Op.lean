import MethodOfLines.Grid.Basic
import MethodOfLines.Kernel
import MethodOfLines.Operator.Basic

/-!
# Stream/Op — the operations a stream carries out

An operation concerns one grid: it installs the grid's parameters, calls a collaborator on its
buffers, or runs a kernel. `Op.execute` says what it does to the grid. An operation that fails
leaves what was written until then; one that crashes takes its worker with it. Beside a crash of the
collaborator itself that happens only where an operation names buffers it cannot have (the rates
written over their own input, a kernel on a buffer that is no stage buffer) or, if the arithmetic
stops there, a size that does not fit a word.
-/

namespace MethodOfLines

/-- **The grid constants a kernel reads**, as last installed on its stream. -/
structure Params (α : Type) where
  grid : GridId
  dims : Axes Nat
  ghosts : Nat
  points : Nat
  spacing : Axes α

/-- The parameters of a grid. -/
def Params.ofDescriptor {α : Type} (d : Descriptor α) : Params α :=
  ⟨d.id, d.dims, d.ghosts, d.points, d.spacing⟩

/-- **What every operation of a stage carries.** -/
structure StageCall (α : Type) where
  /-- Name of the stage's kernel. -/
  kernel : String
  /-- Stage number, from one. -/
  number : Nat
  time : α
  dt : α

/-- The values of a stage at a time. -/
def StageCall.ofStage {α : Type} (stage : Stage α) (time dt : α) : StageCall α :=
  ⟨stage.kernelName, stage.number, time, dt⟩

/-- **An operation on a grid.** -/
inductive Op (α : Type) where
  /-- Install the grid's parameters. -/
  | syncParams (params : Params α)
  | evaluateRhs (call : StageCall α) (input output : Role)
  | applyRadiation (call : StageCall α) (input output : Role)
  | launch (call : StageCall α) (kernel : StageKernel α) (stageBuffer : Role) (launch : Launch)
  | applyBoundary (call : StageCall α) (target : Role)

namespace Op

variable {α : Type}

/-- Install the parameters of a grid. -/
def sync (d : Descriptor α) : Op α := .syncParams (.ofDescriptor d)

/-- Evaluate the rates of a stage. -/
def rates (stage : Stage α) (call : StageCall α) : Op α :=
  .evaluateRhs call stage.rhsInput stage.rhsOutput

/-- Correct the rates of a stage at the boundary. -/
def radiation (stage : Stage α) (call : StageCall α) : Op α :=
  .applyRadiation call stage.rhsInput stage.rhsOutput

/-- Run the kernel of a stage. -/
def kernel (stage : Stage α) (call : StageCall α) (work : Launch) : Op α :=
  .launch call stage.kernel stage.rhsOutput work

/-- Correct the values a stage left at the boundary. -/
def boundary (stage : Stage α) (call : StageCall α) : Op α :=
  .applyBoundary call stage.boundaryTarget

end Op

/-- **How an operation ends.** -/
inductive Verdict where
  | done
  | failed (error : StepError)
  | crashed
  deriving DecidableEq, Repr

/-- The verdict on a call, its error put into the words of a step. -/
def Outcome.verdict (wrap : EvalError → StepError) : Outcome → Verdict
  | done => .done
  | failed reason => .failed (wrap reason)
  | crashed => .crashed

/-- What an operation leaves behind. -/
structure Executed (σ α : Type) where
  verdict : Verdict
  grid : Grid α
  memory : σ

namespace Grid

variable {α : Type}

/-- The grid with one buffer replaced. -/
def setBuffer (g : Grid α) (role : Role)
    (v : Vector α (g.functions.points * g.functions.fields)) : Grid α :=
  { g with functions := g.functions.setBuffer role v }

/-- The grid with all buffers replaced. -/
def setBuffers (g : Grid α) (b : Buffers α (g.functions.points * g.functions.fields)) : Grid α :=
  { g with functions := { g.functions with buffers := b } }

end Grid

namespace Op

variable {σ α : Type}

/-- What a collaborator is told of a grid, on a stream. -/
def context (stream : StreamIndex) (call : StageCall α) (g : Grid α) : Context α :=
  { grid := g.descriptor, time := call.time, dt := call.dt, stage := call.number, stream
    fields := g.functions.fields }

variable [Scalar α]

/-- **The rates of one buffer written into another**, and searched if asked for. -/
def executeRhs (ops : Operators σ α) (stream : StreamIndex) (call : StageCall α)
    (input output : Role) (g : Grid α) (memory : σ) : Executed σ α :=
  match g.functions.buffers.pair? input output with
  | none => ⟨.crashed, g, memory⟩
  | some (x, out) =>
    let ctx := context stream call g
    let wrap := StepError.rhsFailed g.id call.number
    let r := ops.rhs.evaluate ctx x out memory
    let verdict :=
      match r.outcome, ops.checkFinite with
      | .done, true =>
        match MethodOfLines.checkFinite ctx.points r.buffer.toArray with
        | .ok () => .done
        | .error reason => .failed (wrap reason)
      | outcome, _ => outcome.verdict wrap
    ⟨verdict, g.setBuffer output r.buffer, r.shared⟩

/-- **The rates corrected at the boundary.** -/
def executeRadiation (ops : Operators σ α) (stream : StreamIndex) (call : StageCall α)
    (input output : Role) (g : Grid α) (memory : σ) : Executed σ α :=
  match g.functions.buffers.pair? input output with
  | none => ⟨.crashed, g, memory⟩
  | some (x, out) =>
    let r := ops.boundary.applyRadiation (context stream call g) x out memory
    ⟨r.outcome.verdict (.boundaryFailed g.id call.number), g.setBuffer output r.buffer, r.shared⟩

/-- **The values corrected at the boundary.** -/
def executeBoundary (ops : Operators σ α) (stream : StreamIndex) (call : StageCall α)
    (target : Role) (g : Grid α) (memory : σ) : Executed σ α :=
  let r := ops.boundary.apply (context stream call g) (g.functions.buffer target) memory
  ⟨r.outcome.verdict (.boundaryFailed g.id call.number), g.setBuffer target r.buffer, r.shared⟩

/-- **A kernel under the installed parameters.** They must be the grid's own, and cover what the
launch covers. -/
def executeLaunch (overflow : Overflow) (params : Option (Params α)) (call : StageCall α)
    (kernel : StageKernel α) (stageBuffer : Role) (launch : Launch) (g : Grid α) :
    Verdict × Grid α :=
  let refused (fault : DispatchFault) : Verdict :=
    .failed (.dispatch ⟨call.kernel, call.number, g.id, fault⟩)
  let found := params.map (·.grid)
  match params.filter (·.grid = g.id) with
  | none => (refused (.staleParams g.id found), g)
  | some synced =>
    match Word.product? overflow synced.points g.functions.fields with
    | none => (.crashed, g)
    | some covered =>
      if launch.total ≠ covered then (refused (.bufferMismatch launch.total covered), g)
      else match g.functions.buffers.runKernelInPlace? stageBuffer kernel call.dt launch with
        | none => (.crashed, g)
        | some (.error fault, buffers) => (refused fault, g.setBuffers buffers)
        | some (.ok (), buffers) => (.done, g.setBuffers buffers)

end Op

end MethodOfLines
