import MethodOfLines.Text.Blank

/-!
# Boundary/Condition — what happens at the outer edge of a grid

A grid's outer boundary is named by a tag. Two names are known, recognised by how the tag begins
once blanks are dropped and ASCII letters are lowered; any other tag is kept as it was given. The
condition decides the *policy*: the one place in a stage where the boundary enforcer is called.
-/

namespace MethodOfLines

/-- **The outer boundary condition of a grid.** -/
inductive BoundaryCondition where
  /-- The enforcer corrects the freshly updated values. -/
  | extrapolation
  /-- The enforcer corrects the freshly evaluated rates. -/
  | radiation
  /-- A tag that names neither; the enforcer is not called. -/
  | other (tag : String)
  deriving DecidableEq, Repr

/-- **Where in a stage the enforcer is called.** -/
inductive BoundaryPolicy where
  | noOp
  | extrapolateAndInner
  | radiationAndInner
  deriving DecidableEq, Repr

namespace BoundaryPolicy

/-- Called between the rates and the kernel. -/
def afterRhs : BoundaryPolicy → Bool
  | radiationAndInner => true
  | _ => false

/-- Called after the kernel. -/
def afterStage : BoundaryPolicy → Bool
  | extrapolateAndInner => true
  | _ => false

end BoundaryPolicy

namespace BoundaryCondition

/-- **The condition a tag names.** -/
def ofTag (tag : String) : BoundaryCondition :=
  let folded := (Text.trim tag.toList).map Char.toLower
  if "extrapolation".toList.isPrefixOf folded then extrapolation
  else if "radiation".toList.isPrefixOf folded then radiation
  else other tag

/-- The policy of a condition. -/
def policy : BoundaryCondition → BoundaryPolicy
  | extrapolation => .extrapolateAndInner
  | radiation => .radiationAndInner
  | other _ => .noOp

/-- The tag a condition is shown as. -/
def display : BoundaryCondition → String
  | extrapolation => "extrapolation"
  | radiation => "radiation"
  | other tag => tag

end BoundaryCondition

end MethodOfLines
