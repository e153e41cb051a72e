import MethodOfLines.Grid.Role

/-!
# Grid/Error — why a grid or its buffers are refused
-/

namespace MethodOfLines

/-- The number a grid is known by. -/
abbrev GridId := Nat

/-- **Why a grid, its buffers or a list of grids is refused.** -/
inductive GridError where
  /-- An axis without interior points. -/
  | emptyAxis (axis : Nat)
  /-- A count of points or elements that does not fit a word. -/
  | pointCountOverflow
  | zeroFields
  /-- A buffer of another size than points times fields. -/
  | shapeMismatch (role : Role) (expected actual : Nat)
  | duplicateGridId (id : GridId)
  /-- A grid that evolves another number of fields than the first. -/
  | fieldCountMismatch (id : GridId) (expected actual : Nat)
  deriving DecidableEq, Repr

/-- The text of a grid error. -/
def GridError.message : GridError → String
  | emptyAxis axis => s!"axis {axis} has no interior points"
  | pointCountOverflow => "grid point count overflows usize"
  | zeroFields => "grid-function set has no fields"
  | shapeMismatch role expected actual =>
    s!"buffer {role.name} holds {actual} values, expected {expected}"
  | duplicateGridId id => s!"grid id {id} used more than once"
  | fieldCountMismatch id expected actual =>
    s!"grid {id} evolves {actual} fields, expected {expected}"

end MethodOfLines
