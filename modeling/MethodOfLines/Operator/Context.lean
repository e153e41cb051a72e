import MethodOfLines.Failure
import MethodOfLines.Grid.Descriptor

/-!
# Operator/Context — what a collaborator is told

The spatial rates and the boundary are computed by collaborators, outside the stepper. Each call
says which grid and stage it is for, at which time, and how many fields the buffer holds.
-/

namespace MethodOfLines

/-- **The circumstances of a collaborator's call.** -/
structure Context (α : Type) where
  grid : Descriptor α
  time : α
  dt : α
  /-- Stage number, from one. -/
  stage : Nat
  stream : StreamIndex
  /-- Number of evolved fields. -/
  fields : Nat

namespace Context

variable {α : Type}

/-- Points per field. -/
def points (ctx : Context α) : Nat := ctx.grid.points

/-- First element of field `f`, and the first one after it. -/
def fieldRange (ctx : Context α) (f : Nat) : Nat × Nat :=
  (f * ctx.points, (f + 1) * ctx.points)

/-- How many of the fields lie wholly within a buffer of `n` elements. -/
def wholeFields (ctx : Context α) (n : Nat) : Nat := min ctx.fields (n / ctx.points)

end Context

end MethodOfLines
