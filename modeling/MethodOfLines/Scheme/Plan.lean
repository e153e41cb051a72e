import MethodOfLines.Grid.Role
import MethodOfLines.Scheme.Tableau

/-!
# Scheme/Plan — a diagonal method laid out on four buffers

Each stage evaluates the rates into the stage buffer that is its turn, and then runs one kernel. The
first kernel starts the running total and overwrites the rates by the next stage's argument; those
between add to the total and do the same; the last adds total and rates to the state. A method of
one stage has a kernel of its own.
-/

namespace MethodOfLines

/-- **The update that ends a stage**, with the weight of its rate and, unless it is the last, the
weight of that rate in the next stage's argument. -/
inductive StageKernel (α : Type) where
  /-- The only stage. -/
  | single (b : α)
  | first (b next : α)
  | intermediate (b next : α)
  | final (b : α)

/-- Whether the kernel completes the state. -/
def StageKernel.finalizes {α : Type} : StageKernel α → Bool
  | single _ | final _ => true
  | first .. | intermediate .. => false

/-- **One stage of a plan.** -/
structure Stage (α : Type) where
  /-- Position in the plan, from zero. -/
  index : Nat
  /-- Place within the step. -/
  c : α
  kernel : StageKernel α

namespace Stage

variable {α : Type}

/-- Position in the plan, from one, as messages count. -/
def number (s : Stage α) : Nat := s.index + 1

/-- The names of the kernels, by the position of their stage. -/
def kernelNames : List String :=
  ["rk_substep_1", "rk_substep_2", "rk_substep_3", "rk_substep_4", "rk_substep_5", "rk_substep_6",
    "rk_substep_7", "rk_substep_8"]

/-- The kernel's name. A method has no more stages than there are names. -/
def kernelName (s : Stage α) : String := kernelNames.getD s.index ""

/-- The buffer the rates are evaluated from: what the stage before left, or the state. -/
def rhsInput (s : Stage α) : Role :=
  match s.index with
  | 0 => .state
  | i + 1 => .stageOutput i

/-- The buffer the rates are evaluated into. -/
def rhsOutput (s : Stage α) : Role := .stageOutput s.index

/-- The buffer the kernel leaves to be corrected at the boundary. -/
def boundaryTarget (s : Stage α) : Role :=
  if s.kernel.finalizes then .state else s.rhsOutput

end Stage

namespace Tableau

variable {α : Type} [Zero α]

/-- The kernel that ends stage `i`. -/
def kernel (t : Tableau α) (i : Nat) : StageKernel α :=
  if t.stages = 1 then .single (t.weight i)
  else if i = 0 then .first (t.weight i) (t.entry (i + 1) i)
  else if i + 1 = t.stages then .final (t.weight i)
  else .intermediate (t.weight i) (t.entry (i + 1) i)

/-- Stage `i` of a method. -/
def stage (t : Tableau α) (i : Nat) : Stage α :=
  { index := i, c := t.node i, kernel := t.kernel i }

end Tableau

/-- **A method that runs in four buffers.** -/
structure Plan (α : Type) [Scalar α] where
  tableau : Tableau α
  diagonal : tableau.isDiagonal = true

namespace Plan

variable {α : Type} [Scalar α]

/-- **The plan of a diagonal method.** -/
def ofTableau (t : Tableau α) : Except SchemeError (Plan α) :=
  if h : t.isDiagonal = true then .ok ⟨t, h⟩ else .error (.notDiagonal t.name)

/-- The name of the method. -/
def name (p : Plan α) : String := p.tableau.name

/-- **The stages of the method, in order.** -/
def stages (p : Plan α) : List (Stage α) := (List.range p.tableau.stages).map p.tableau.stage

end Plan

end MethodOfLines
