import MethodOfLines.Grid.FieldSet

/-!
# Grid/Basic — a grid with its functions

A `Grid` is a shape and the buffers evolved on it. The two are checked against each other by
`ofParts`, and by the stepper's own validation; the type itself does not tie them.
-/

namespace MethodOfLines

/-- **A shape and the buffers evolved on it.** -/
structure Grid (α : Type) where
  descriptor : Descriptor α
  functions : FieldSet α

namespace Grid

variable {α : Type}

/-- The number the grid is known by. -/
def id (g : Grid α) : GridId := g.descriptor.id

/-- The state buffer. -/
def state (g : Grid α) : Array α := (g.functions.buffer .state).toArray

/-- A grid of zeros. -/
def zeroed [Zero α] (d : Descriptor α) (fields : Nat) : Except GridError (Grid α) :=
  (FieldSet.zeroed d.points fields).map fun s => ⟨d, s⟩

/-- A shape and buffers that fit it. -/
def ofParts (d : Descriptor α) (s : FieldSet α) : Except GridError (Grid α) :=
  (s.validateAgainst d).map fun _ => ⟨d, s⟩

/-- The grid with another state, if it has the right size. -/
def setState (g : Grid α) (values : Array α) : Except GridError (Grid α) :=
  (g.functions.setState values).map fun s => { g with functions := s }

/-- **A line of points** without ghosts, with one field of the given values. -/
def line [Zero α] [One α] (id : GridId) (values : Array α) : Except GridError (Grid α) := do
  let d ← Descriptor.make id ⟨values.size, 1, 1⟩ 0
  (← zeroed d 1).setState values

/-- **A grid whose values climb evenly** through the whole buffer: element `i` is `a + b * i`. -/
def ramp [Scalar α] (id : GridId) (interior : Axes Nat) (ghosts fields : Nat) (a b : α) :
    Except GridError (Grid α) := do
  let d ← Descriptor.make id interior ghosts
  let g ← zeroed d fields
  g.setState ((Array.range g.functions.size).map fun (i : Nat) => a + b * (i : α))

end Grid

end MethodOfLines
