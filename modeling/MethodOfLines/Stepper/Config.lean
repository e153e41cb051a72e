import MethodOfLines.Clock
import MethodOfLines.Launch
import MethodOfLines.Operator.Edges
import MethodOfLines.Scheme.Catalogue
import MethodOfLines.Text.Quoted

/-!
# Stepper/Config — what a stepper is built from
-/

namespace MethodOfLines

/-- **Why a stepper is not built, or its grids are refused.** -/
inductive ConfigError (α : Type) where
  | scheme (error : SchemeError)
  | grid (error : GridError)
  | invalidTimestep (dt : α)
  | zeroStreams
  | invalidBlockSize (value : Nat)

namespace ConfigError

variable {α : Type}

/-- The text of a configuration error, given how numbers are written. -/
def message (render : α → String) : ConfigError α → String
  | scheme error => s!"scheme: {error.message}"
  | grid error => s!"grid: {error.message}"
  | invalidTimestep dt => InvalidTimestep.message render ⟨dt⟩
  | zeroStreams => "stream_pool_size must be at least 1"
  | invalidBlockSize value => s!"block_size {value} outside 1..={Launch.maxBlockSize}"

/-- The texts of the causes below a configuration error. -/
def sources : ConfigError α → List String
  | scheme error => [error.message]
  | grid error => [error.message]
  | invalidTimestep _ | zeroStreams | invalidBlockSize _ => []

end ConfigError

/-- **What a stepper is built from.** -/
structure Config (σ α : Type) where
  scheme : Tableau α
  /-- Number of execution streams. -/
  streamPoolSize : Nat := 1
  /-- Elements per block of a launch. -/
  blockSize : Nat := Launch.defaultBlockSize
  /-- The tag of a boundary condition for all grids, in place of their own. -/
  outerTag : Option String := none
  /-- Whether the rates are searched for values that are not finite. -/
  checkFinite : Bool := false
  /-- What a product of sizes does that does not fit. -/
  overflow : Overflow := .stops
  rhs : Rhs σ α
  boundary : Enforcer σ α := .none

namespace Config

variable {σ α : Type}

/-- The collaborators of a configuration. -/
def operators (c : Config σ α) : Operators σ α where
  rhs := c.rhs
  boundary := c.boundary
  checkFinite := c.checkFinite
  overflow := c.overflow

/-- A description of the configuration. -/
def describe (c : Config σ α) : String :=
  let outer := match c.outerTag with
    | none => "None"
    | some tag => "Some(" ++ Text.quoted tag ++ ")"
  "StepperConfig \x7b scheme: " ++ Text.quoted c.scheme.name
    ++ s!", stream_pool_size: {c.streamPoolSize}, block_size: {c.blockSize}"
    ++ ", outer_bc_type: " ++ outer ++ s!", check_finite: {c.checkFinite}"
    ++ ", rhs: " ++ Text.quoted c.rhs.name ++ ", boundary: " ++ Text.quoted c.boundary.name
    ++ " \x7d"

end Config

/-- A description of the collaborators. -/
def Operators.describe {σ α : Type} (ops : Operators σ α) : String :=
  "Collaborators \x7b rhs: " ++ Text.quoted ops.rhs.name
    ++ ", boundary: " ++ Text.quoted ops.boundary.name ++ s!", check_finite: {ops.checkFinite} \x7d"

end MethodOfLines
