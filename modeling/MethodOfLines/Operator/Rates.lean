import MethodOfLines.Operator.Basic

/-!
# Operator/Rates — simple right-hand sides

Rates that are the same everywhere or depend on one element at a time, a right-hand side that stops
working after a number of calls, and one that keeps a record of the calls to another.
-/

namespace MethodOfLines

namespace Rhs

variable {σ α : Type}

/-- The output with every element that has one in the input replaced by a function of it. -/
def pointwise {m n : Nat} (f : Nat → α → α) (input : Vector α m) (output : Vector α n) :
    Vector α n :=
  output.mapIdx fun i old => ((input[i]?).map (f i)).getD old

/-- The same rate everywhere. -/
def constant (value : α) : Rhs σ α where
  name := "constant"
  evaluate _ _ output memory := ⟨.done, output.map fun _ => value, memory⟩

/-- Rates proportional to the values. -/
def linear [Mul α] (lambda : α) : Rhs σ α where
  name := "linear"
  evaluate _ input output memory :=
    ⟨.done, pointwise (fun _ y => lambda * y) input output, memory⟩

/-- Rates linear in the value, the time and the place in the buffer. -/
def affine [Scalar α] (a b c : α) : Rhs σ α where
  name := "affine"
  evaluate ctx input output memory :=
    ⟨.done, pointwise (fun i y => a * y + b * ctx.time + c * (i : α)) input output, memory⟩

/-- The squares of the values. -/
def square [Mul α] : Rhs σ α where
  name := "square"
  evaluate _ input output memory := ⟨.done, pointwise (fun _ y => y * y) input output, memory⟩

/-- **A budget of successful calls.** Zeros until `budget` calls have been made, whichever streams
made them, and an error from then on; it remembers the number of calls. -/
def failing [Zero α] (budget : Nat) : Rhs Nat α where
  name := "failing"
  evaluate _ _ output calls :=
    if calls < budget then ⟨.done, output.map fun _ => 0, calls + 1⟩
    else
      ⟨.failed (.executionFailed s!"deliberate failure after {budget} successful calls"), output,
        calls + 1⟩

end Rhs

/-- A call of a right-hand side, as it was made. -/
structure RhsCall (α : Type) where
  grid : GridId
  stage : Nat
  time : α
  stream : StreamIndex
  input : Array α

/-- **The right-hand side with every call recorded** before it is made. -/
def Rhs.recording {σ α : Type} (record : Part σ (Array (RhsCall α))) (inner : Rhs σ α) :
    Rhs σ α where
  name := inner.name
  evaluate ctx input output memory :=
    let call : RhsCall α := ⟨ctx.grid.id, ctx.stage, ctx.time, ctx.stream, input.toArray⟩
    inner.evaluate ctx input output (record.set ((record.get memory).push call) memory)

end MethodOfLines
