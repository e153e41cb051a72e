import MethodOfLines.Grid.FieldSet
import MethodOfLines.Launch
import MethodOfLines.Scheme.Plan

/-!
# Kernel — the update that ends a stage, block by block

A kernel acts on each element of three buffers alone: the state, the stage buffer holding the rates,
and the running total. `StageKernel.apply` says what it does to one element. `runInPlace` carries it
out one block of the launch after the other, once all three buffers have been found to be as long as
the launch, and leaves the buffers beside the fault if there is one; `runBlocks` does so for blocks
in any order.
-/

namespace MethodOfLines

/-- One element of each of the three buffers. -/
structure Cell (α : Type) where
  state : α
  stage : α
  total : α

namespace StageKernel

variable {α : Type} [Scalar α]

/-- The kernel with its weights multiplied by the step. -/
def scale (dt : α) : StageKernel α → StageKernel α
  | single b => single (b * dt)
  | first b next => first (b * dt) (next * dt)
  | intermediate b next => intermediate (b * dt) (next * dt)
  | final b => final (b * dt)

/-- **What a scaled kernel does to one element.** The rates are read before they are overwritten. -/
def apply : StageKernel α → Cell α → Cell α
  | single b, ⟨y, k, t⟩ => ⟨Scalar.fma b k y, k, t⟩
  | first b next, ⟨y, k, _⟩ => ⟨y, Scalar.fma next k y, b * k⟩
  | intermediate b next, ⟨y, k, t⟩ => ⟨y, Scalar.fma next k y, Scalar.fma b k t⟩
  | final b, ⟨y, k, t⟩ => ⟨t + Scalar.fma b k y, k, t⟩

end StageKernel

/-- **The three buffers a kernel works on**, each with a length of its own. -/
structure Operands (α : Type) (ny nk nt : Nat) where
  state : Vector α ny
  stage : Vector α nk
  total : Vector α nt

namespace Operands

variable {α : Type} {ny nk nt : Nat}

/-- Element `i` of all three buffers updated by `f`; nothing if one of them is shorter. -/
def update (f : Cell α → Cell α) (o : Operands α ny nk nt) (i : Nat) : Operands α ny nk nt :=
  if h : i < ny ∧ i < nk ∧ i < nt then
    let ⟨y, k, t⟩ := f ⟨o.state[i], o.stage[i], o.total[i]⟩
    { state := o.state.set i y, stage := o.stage.set i k, total := o.total.set i t }
  else o

/-- The length of the first buffer, in the order state, stage, total, that is not `n`. -/
def misfit? (_ : Operands α ny nk nt) (n : Nat) : Option Nat :=
  [ny, nk, nt].find? (· != n)

end Operands

namespace StageKernel

variable {α : Type} [Scalar α] {ny nk nt : Nat}

/-- The blocks of a launch, in the given order, under an already scaled kernel. -/
def runBlocks (kernel : StageKernel α) (launch : Launch) (order : List Nat)
    (o : Operands α ny nk nt) : Operands α ny nk nt :=
  order.foldl (fun o j => (launch.block j).foldl (·.update kernel.apply ·) o) o

/-- **A kernel on three buffers**: whether it ran, and the buffers it leaves. It is refused if one
of them has another length than the launch. -/
def runInPlace (kernel : StageKernel α) (dt : α) (launch : Launch) (o : Operands α ny nk nt) :
    Except DispatchFault Unit × Operands α ny nk nt :=
  match o.misfit? launch.total with
  | some actual => (.error (.bufferMismatch launch.total actual), o)
  | none => (.ok (), (kernel.scale dt).runBlocks launch (List.range launch.blocks) o)

/-- The buffers a kernel leaves, if it ran. -/
def run (kernel : StageKernel α) (dt : α) (launch : Launch) (o : Operands α ny nk nt) :
    Except DispatchFault (Operands α ny nk nt) :=
  let (result, o) := kernel.runInPlace dt launch o
  result.map fun _ => o

end StageKernel

namespace Buffers

variable {α : Type} [Scalar α] {n : Nat}

/-- **A kernel on the buffers of a grid**, with the rates in `stage`; none if that is not a stage
buffer. -/
def runKernelInPlace? (b : Buffers α n) (stage : Role) (kernel : StageKernel α) (dt : α)
    (launch : Launch) : Option (Except DispatchFault Unit × Buffers α n) :=
  (b.stageViews? stage).map fun (y, k, t) =>
    let (result, o) := kernel.runInPlace dt launch ⟨y, k, t⟩
    (result, ((b.set .state o.state).set stage o.stage).set .total o.total)

/-- The buffers of a grid that a kernel leaves, if it ran. -/
def runKernel? (b : Buffers α n) (stage : Role) (kernel : StageKernel α) (dt : α)
    (launch : Launch) : Option (Except DispatchFault (Buffers α n)) :=
  (b.runKernelInPlace? stage kernel dt launch).map fun (result, b) => result.map fun _ => b

end Buffers

end MethodOfLines
