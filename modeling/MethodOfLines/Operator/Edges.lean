import MethodOfLines.Operator.Basic

/-!
# Operator/Edges — simple boundary enforcers

Enforcers that do nothing, fail, count their calls, or set the first element from the last.
-/

namespace MethodOfLines

/-- The calls of a counting enforcer. -/
structure BoundaryTally where
  /-- Calls on values. -/
  applies : Nat := 0
  /-- Calls on rates. -/
  radiation : Nat := 0
  /-- Grid and stage of each call on values. -/
  applied : Array (GridId × Nat) := #[]

namespace Enforcer

variable {σ α : Type}

/-- No boundary. -/
def none : Enforcer σ α where
  name := "none"
  apply _ values memory := ⟨.done, values, memory⟩
  applyRadiation _ _ rates memory := ⟨.done, rates, memory⟩

/-- An error at every call. -/
def failing : Enforcer σ α where
  name := "failing"
  apply _ values memory :=
    ⟨.failed (.executionFailed "deliberate boundary failure"), values, memory⟩
  applyRadiation _ _ rates memory :=
    ⟨.failed (.executionFailed "deliberate radiation failure"), rates, memory⟩

/-- The first element set to a mark, if there are both. -/
def stamp {n : Nat} (mark : Option α) (v : Vector α n) : Vector α n :=
  match mark with
  | some a => v.setIfInBounds 0 a
  | .none => v

/-- **A count of its calls**, which may also mark the buffers it is called on. -/
def counting (mark : Option α) : Enforcer BoundaryTally α where
  name := "counting"
  apply ctx values tally :=
    ⟨.done, stamp mark values,
      { tally with applies := tally.applies + 1
                   applied := tally.applied.push (ctx.grid.id, ctx.stage) }⟩
  applyRadiation _ _ rates tally :=
    ⟨.done, stamp mark rates, { tally with radiation := tally.radiation + 1 }⟩

/-- A call that sets the first element to a function of the last element of `source`. It crashes if
there is no element to read or none to write. -/
def closeEdge {m n : Nat} (f : α → α) (source : Vector α m) (target : Vector α n) (memory : σ) :
    Reply σ α n :=
  match source.toArray.back?, n with
  | some _, 0 | .none, _ => ⟨.crashed, target, memory⟩
  | some last, _ + 1 => ⟨.done, target.set 0 (f last), memory⟩

/-- The first element set from the last: a multiple of it for values, and for rates a multiple of
the last input plus the time. -/
def edge [Add α] [Mul α] (factor : α) : Enforcer σ α where
  name := "edge"
  apply _ values memory := closeEdge (factor * ·) values values memory
  applyRadiation ctx input rates memory :=
    closeEdge (factor * · + ctx.time) input rates memory

end Enforcer

end MethodOfLines
