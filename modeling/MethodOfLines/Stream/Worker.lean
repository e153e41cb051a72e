import MethodOfLines.Stream.Op

/-!
# Stream/Worker — one stream's worker

A worker owns the grids bound to its stream, a slot for the parameters last installed, and the error
of the first operation that failed. Once an operation has failed the worker skips what follows, also
installing parameters, until it is asked for the error; a worker that crashed does nothing more.
-/

namespace MethodOfLines

/-- **The worker of a stream.** -/
structure Worker (α : Type) where
  stream : StreamIndex
  /-- The grids it owns, by their slot in the list of all grids. -/
  grids : List (Nat × Grid α)
  /-- The parameters last installed. -/
  params : Option (Params α) := none
  /-- The error of the first operation that failed since the worker was last asked. -/
  failed : Option StepError := none
  /-- Whether the worker is gone. -/
  lost : Bool := false

namespace Worker

variable {σ α : Type}

/-- The grid in a slot. -/
def grid? (w : Worker α) (slot : Nat) : Option (Grid α) := w.grids.lookup slot

/-- The worker with the grid of a slot replaced. -/
def setGrid (w : Worker α) (slot : Nat) (g : Grid α) : Worker α :=
  { w with grids := w.grids.map fun entry => if entry.1 = slot then (slot, g) else entry }

/-- The worker as an operation on one of its grids leaves it. -/
def settle (w : Worker α) (slot : Nat) (verdict : Verdict) (g : Grid α) : Worker α :=
  let w := w.setGrid slot g
  match verdict with
  | .done => w
  | .failed error => { w with failed := some error }
  | .crashed => { w with lost := true }

variable [Scalar α]

/-- **An operation carried out** on the grid in `slot`. A slot it does not own is a crash. -/
def execute (ops : Operators σ α) (w : Worker α) (slot : Nat) (op : Op α) (memory : σ) :
    Worker α × σ :=
  match op, w.grid? slot with
  | .syncParams params, _ => ({ w with params := some params }, memory)
  | _, none => ({ w with lost := true }, memory)
  | .evaluateRhs call input output, some g =>
    let e := Op.executeRhs ops w.stream call input output g memory
    (w.settle slot e.verdict e.grid, e.memory)
  | .applyRadiation call input output, some g =>
    let e := Op.executeRadiation ops w.stream call input output g memory
    (w.settle slot e.verdict e.grid, e.memory)
  | .launch call kernel stageBuffer launch, some g =>
    let (verdict, g) := Op.executeLaunch ops.overflow w.params call kernel stageBuffer launch g
    (w.settle slot verdict g, memory)
  | .applyBoundary call target, some g =>
    let e := Op.executeBoundary ops w.stream call target g memory
    (w.settle slot e.verdict e.grid, e.memory)

/-- **The next operation of the queue**, carried out or skipped. -/
def perform (ops : Operators σ α) (w : Worker α) (slot : Nat) (op : Op α) (memory : σ) :
    Worker α × σ :=
  if w.lost || w.failed.isSome then (w, memory) else w.execute ops slot op memory

omit [Scalar α] in
/-- The worker once its error has been taken. -/
def cleared (w : Worker α) : Worker α := { w with failed := none }

end Worker

end MethodOfLines
