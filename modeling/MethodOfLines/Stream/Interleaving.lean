import MethodOfLines.Stream.Pool

/-!
# Stream/Interleaving — a pool whose workers run beside the issuing side

`Stream/Pool` carries out an operation when it is issued. Here each stream has a queue, and the
issuing side and the workers move one at a time in any order: the issuing side puts an operation at
the end of a queue, or asks the streams for their errors, one after the other, and waits for all
answers; a worker takes what is at the front of its own queue. A worker that crashes drops its
queue, answers nothing more, and is sent nothing more. A `Schedule` says who moves when; a move that
is not possible is skipped.
-/

namespace MethodOfLines

/-- **What stands in a stream's queue.** -/
inductive Message (α : Type) where
  /-- An operation on the grid in a slot. -/
  | work (slot : Nat) (op : Op α)
  /-- The question for the error. -/
  | fence

/-- **A stream with its queue**, and its answer to the question being asked. -/
structure Lane (α : Type) where
  stream : Stream α
  queue : List (Message α) := []
  reply : Option (Option StepError) := none

namespace Lane

variable {σ α : Type}

/-- The lane with a message at the end of its queue, unless its worker is gone. -/
def send (lane : Lane α) (message : Message α) : Lane α :=
  if lane.stream.worker.lost then lane else { lane with queue := lane.queue ++ [message] }

/-- The lane's answer to the question being asked, once there is one: what the worker replied, or
that the worker is gone. -/
def answer? (lane : Lane α) (stage : Stage α) : Option (Option StepError) :=
  match lane.reply with
  | some reply => some reply
  | none => if lane.stream.worker.lost then some (lane.stream.answer stage) else none

/-- The worker has nothing left to do. -/
def isIdle (lane : Lane α) : Bool := lane.queue.isEmpty

variable [Scalar α]

/-- **The worker's move**: the front of the queue is taken and carried out. The operation is named
if it was not skipped. -/
def advance? (ops : Operators σ α) (lane : Lane α) (memory : σ) :
    Option (Lane α × σ × Option (Nat × Op α)) :=
  let worker := lane.stream.worker
  if worker.lost then none
  else match lane.queue with
    | [] => none
    | .fence :: rest =>
      some ({ stream := lane.stream.cleared, queue := rest, reply := some worker.failed }, memory,
        none)
    | .work slot op :: rest =>
      let (next, memory) := worker.perform ops slot op memory
      some
        ({ stream := { lane.stream with worker := next }
           queue := if next.lost then [] else rest
           reply := lane.reply },
          memory, if worker.failed.isNone then some (slot, op) else none)

end Lane

/-- Whether the issuing side goes on after an error. -/
inductive Discipline where
  | goOn
  | stop
  deriving DecidableEq, Repr

/-- **A pool under way**: its lanes, what is still to be asked of it, and what has come of it. -/
structure Machine (σ α : Type) where
  size : Nat
  bindings : List (Binding α)
  lanes : List (Lane α)
  memory : σ
  /-- The requests not yet made. -/
  pending : List (Request α)
  /-- The stage whose end the issuing side waits for. -/
  waiting : Option (Stage α) := none
  /-- The streams it has still to ask for their errors. -/
  unasked : List StreamIndex := []
  /-- The answers to the requests made, in order. -/
  results : List (Except StepError Unit) := []
  /-- The operations carried out, with their slots, in order. -/
  performed : List (Nat × Op α) := []

/-- Who moves. -/
inductive Actor where
  | issuer
  | worker (stream : StreamIndex)
  deriving DecidableEq, Repr

/-- **An order of moves.** -/
abbrev Schedule := List Actor

namespace Machine

variable {σ α : Type}

/-- **A machine over a list of grids**, with requests to be made. -/
def start (size : Nat) (grids : List (Grid α)) (memory : σ) (requests : List (Request α)) :
    Machine σ α :=
  let pool := Pool.spawn size grids memory
  { size, memory
    bindings := pool.bindings
    lanes := pool.streams.map fun stream => { stream }
    pending := requests }

/-- The pool without its queues. -/
def pool (m : Machine σ α) : Pool σ α :=
  { size := m.size, bindings := m.bindings, streams := m.lanes.map (·.stream), memory := m.memory }

/-- Every request has been answered and every queue is empty. -/
def isFinished (m : Machine σ α) : Bool :=
  m.pending.isEmpty && m.waiting.isNone && m.lanes.all Lane.isIdle

/-- The machine with a request answered. -/
def answered (discipline : Discipline) (m : Machine σ α) (rest : List (Request α))
    (result : Except StepError Unit) : Machine σ α :=
  { m with
    waiting := none
    results := m.results ++ [result]
    pending := match discipline, result with
      | .stop, .error _ => []
      | _, _ => rest }

/-- The answer to a submission, known when it is sent. -/
def sent (m : Machine σ α) (b : Binding α) (call : StageCall α) : Except StepError Unit :=
  match m.lanes.find? (·.stream.index = b.stream) with
  | some lane =>
    if lane.stream.worker.lost then
      .error (.dispatch ⟨call.kernel, call.number, b.descriptor.id, .streamLost b.stream⟩)
    else .ok ()
  | none => .error (.dispatch ⟨call.kernel, call.number, b.descriptor.id, .streamLost b.stream⟩)

/-- The lanes after an operation was sent. -/
def sending (m : Machine σ α) (b : Binding α) (op : Op α) : List (Lane α) :=
  m.lanes.map fun lane =>
    if lane.stream.index = b.stream then
      { lane with stream := { lane.stream with lastGrid := b.descriptor.id } }.send
        (.work b.slot op)
    else lane

/-- The lanes once a stream has been asked for its error. -/
def asking (m : Machine σ α) (stream : StreamIndex) : List (Lane α) :=
  m.lanes.map fun lane => if lane.stream.index = stream then lane.send .fence else lane

/-- The answer of all lanes together, once each has answered: the first error among theirs. -/
def collected? (m : Machine σ α) (stage : Stage α) : Option (Except StepError Unit) := do
  let answers ← m.lanes.mapM (·.answer? stage)
  return match answers.findSome? id with
    | some error => .error error
    | none => .ok ()

/-- **The issuing side's move.** At the end of a stage it asks one stream after the other, and then
moves only once every lane has answered. -/
def issuer? (discipline : Discipline) (m : Machine σ α) : Option (Machine σ α) :=
  match m.waiting, m.unasked, m.pending with
  | none, _, [] => none
  | none, _, .submit b call op :: rest =>
    some ({ m with lanes := m.sending b op }.answered discipline rest (m.sent b call))
  | none, _, .fence stage :: rest =>
    some { m with
      waiting := some stage
      unasked := m.lanes.map (·.stream.index)
      pending := rest
      lanes := m.lanes.map fun lane => { lane with reply := none } }
  | some _, stream :: others, _ =>
    some { m with unasked := others, lanes := m.asking stream }
  | some stage, [], rest => (m.collected? stage).map (m.answered discipline rest)

variable [Scalar α]

/-- **A worker's move.** -/
def worker? (ops : Operators σ α) (m : Machine σ α) (stream : StreamIndex) :
    Option (Machine σ α) := do
  let lane ← m.lanes.find? (·.stream.index = stream)
  let (lane, memory, performed) ← lane.advance? ops m.memory
  return { m with
    memory
    lanes := m.lanes.map fun old => if old.stream.index = stream then lane else old
    performed := m.performed ++ performed.toList }

/-- A move, if it is possible. -/
def move? (ops : Operators σ α) (discipline : Discipline) (m : Machine σ α) :
    Actor → Option (Machine σ α)
  | .issuer => m.issuer? discipline
  | .worker stream => m.worker? ops stream

/-- **The machine after a schedule.** -/
def run (ops : Operators σ α) (discipline : Discipline) (m : Machine σ α) (schedule : Schedule) :
    Machine σ α :=
  schedule.foldl (fun m actor => (m.move? ops discipline actor).getD m) m

end Machine

end MethodOfLines
