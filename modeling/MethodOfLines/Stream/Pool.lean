import MethodOfLines.Event
import MethodOfLines.Stream.Worker

/-!
# Stream/Pool — grids bound to streams

Each grid is bound to the stream that is its id modulo the size of the pool, and a stream has a
worker if a grid is bound to it. Work is issued grid by grid; on one stream it is carried out in the
order of issue, and streams do not touch each other's grids. So an operation is carried out here at
the moment it is issued. A `fence` waits for every stream and returns the error of the lowest stream
that has one.
-/

namespace MethodOfLines

/-- The stream a grid is bound to. -/
def streamFor (id : GridId) (poolSize : Nat) : StreamIndex := id % poolSize

/-- The stream a grid is bound to; none in a pool without streams. -/
def streamFor? (id : GridId) (poolSize : Nat) : Option StreamIndex :=
  if poolSize = 0 then none else some (streamFor id poolSize)

/-- **A grid's place in the pool**, as the issuing side knows it. -/
structure Binding (α : Type) where
  /-- Position in the list of grids. -/
  slot : Nat
  descriptor : Descriptor α
  fields : Nat
  stream : StreamIndex

/-- The place of a grid in a pool of a given size. -/
def Binding.ofGrid {α : Type} (size slot : Nat) (g : Grid α) : Binding α :=
  ⟨slot, g.descriptor, g.functions.fields, streamFor g.id size⟩

/-- A launch over the whole of a grid, for a stage. -/
def Binding.launch {α : Type} (b : Binding α) (blockSize : Nat) (stage : Stage α) :
    Except DispatchError Launch :=
  (Launch.forGrid b.descriptor b.fields blockSize).mapError fun fault =>
    ⟨stage.kernelName, stage.number, b.descriptor.id, fault⟩

/-- The event of a launch. -/
def Binding.launched {α : Type} (b : Binding α) (stage : Stage α) (launch : Launch) : Event α :=
  .launched stage.kernelName b.descriptor.id b.stream launch.blocks launch.blockSize

/-- **A stream**: its worker, and the grid work was last issued for. -/
structure Stream (α : Type) where
  lastGrid : GridId
  worker : Worker α

/-- **What the issuing side asks of a pool.** -/
inductive Request (α : Type) where
  /-- Carry out an operation on a grid. -/
  | submit (grid : Binding α) (call : StageCall α) (op : Op α)
  /-- Wait for all streams at the end of a stage. -/
  | fence (stage : Stage α)

/-- **Grids bound to streams**, and what the collaborators remember. -/
structure Pool (σ α : Type) where
  size : Nat
  bindings : List (Binding α)
  /-- The streams that own a grid, in increasing order. -/
  streams : List (Stream α)
  memory : σ

namespace Stream

variable {α : Type}

/-- The number of a stream. -/
def index (st : Stream α) : StreamIndex := st.worker.stream

/-- A stream index added to an increasing list of them. -/
def insertIndex (s : StreamIndex) : List StreamIndex → List StreamIndex
  | [] => [s]
  | t :: ts => if s < t then s :: t :: ts else if s = t then t :: ts else t :: insertIndex s ts

/-- The streams in use, in increasing order. -/
def indices (bindings : List (Binding α)) : List StreamIndex :=
  bindings.foldr (fun b used => insertIndex b.stream used) []

/-- A stream that owns the given grids. -/
def start (index : StreamIndex) (grids : List (Nat × Grid α)) : Stream α :=
  { lastGrid := (grids.head?.map (·.2.id)).getD 0
    worker := { stream := index, grids } }

/-- What a stream answers at the end of a stage. A stream whose worker is gone is reported against
the grid it was last used for. -/
def answer (st : Stream α) (stage : Stage α) : Option StepError :=
  if st.worker.lost then
    some (.dispatch ⟨stage.kernelName, stage.number, st.lastGrid, .streamLost st.index⟩)
  else st.worker.failed

/-- The stream once it has answered. -/
def cleared (st : Stream α) : Stream α := { st with worker := st.worker.cleared }

end Stream

namespace Pool

variable {σ α : Type}

/-- The grids of a list with their slots. -/
def slots (grids : List (Grid α)) : List (Nat × Grid α) :=
  grids.zipIdx.map fun (g, slot) => (slot, g)

/-- **A pool over a list of grids.** -/
def spawn (size : Nat) (grids : List (Grid α)) (memory : σ) : Pool σ α :=
  let bindings := (slots grids).map fun (slot, g) => Binding.ofGrid size slot g
  { size, bindings, memory
    streams := (Stream.indices bindings).map fun s =>
      .start s ((slots grids).filter fun (_, g) => streamFor g.id size = s) }

/-- Number of streams that own a grid. -/
def streamsUsed (pool : Pool σ α) : Nat := pool.streams.length

/-- A stream of the pool. -/
def stream? (pool : Pool σ α) (index : StreamIndex) : Option (Stream α) :=
  pool.streams.find? (·.index = index)

/-- The pool with a stream replaced. -/
def setStream (pool : Pool σ α) (st : Stream α) : Pool σ α :=
  { pool with streams := pool.streams.map fun old => if old.index = st.index then st else old }

/-- The streams whose worker is gone. -/
def lostStreams (pool : Pool σ α) : List StreamIndex :=
  (pool.streams.filter (·.worker.lost)).map (·.index)

/-- The grid in a slot, as its stream left it. -/
def grid? (pool : Pool σ α) (b : Binding α) : Option (Grid α) :=
  (pool.stream? b.stream).bind (·.worker.grid? b.slot)

/-- **The grids, in their order,** as the streams left them. -/
def grids (pool : Pool σ α) : List (Grid α) := pool.bindings.filterMap pool.grid?

/-- The events of closing the pool. -/
def closing (pool : Pool σ α) : List (Event α) := pool.lostStreams.map .workerLost

/-- **Wait for every stream.** The error of the lowest stream that has one is returned, and all
streams go on. -/
def fence (pool : Pool σ α) (stage : Stage α) : Except StepError Unit × Pool σ α :=
  let rest := { pool with streams := pool.streams.map Stream.cleared }
  match pool.streams.findSome? (·.answer stage) with
  | some error => (.error error, rest)
  | none => (.ok (), rest)

variable [Scalar α]

/-- **An operation issued.** A stream whose worker is gone takes none. -/
def submit (ops : Operators σ α) (pool : Pool σ α) (b : Binding α) (call : StageCall α)
    (op : Op α) : Except DispatchError Unit × Pool σ α :=
  let lost : DispatchError := ⟨call.kernel, call.number, b.descriptor.id, .streamLost b.stream⟩
  match pool.stream? b.stream with
  | none => (.error lost, pool)
  | some st =>
    let st := { st with lastGrid := b.descriptor.id }
    if st.worker.lost then (.error lost, pool.setStream st)
    else
      let (worker, memory) := st.worker.perform ops b.slot op pool.memory
      (.ok (), { pool.setStream { st with worker } with memory })

/-- **Run the kernel of a stage over the whole grid.** A launch that cannot be formed is refused and
nothing is issued. -/
def launch (ops : Operators σ α) (pool : Pool σ α) (blockSize : Nat) (b : Binding α)
    (stage : Stage α) (call : StageCall α) :
    Except DispatchError Launch × List (Event α) × Pool σ α :=
  match b.launch blockSize stage with
  | .error e => (.error e, [], pool)
  | .ok launch =>
    let (result, pool) := pool.submit ops b call (.kernel stage call launch)
    (result.map fun _ => launch, [b.launched stage launch], pool)

/-- **A request carried out.** -/
def serve (ops : Operators σ α) (pool : Pool σ α) :
    Request α → Except StepError Unit × Pool σ α
  | .submit b call op =>
    let (result, pool) := pool.submit ops b call op
    (result.mapError .dispatch, pool)
  | .fence stage => pool.fence stage

end Pool

end MethodOfLines
