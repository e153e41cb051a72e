import MethodOfLines.Diffusion.Ghosts
import MethodOfLines.Diffusion.Laplacian
import MethodOfLines.Stepper.Basic

/-!
# Diffusion/Profile — ready-made diffusion runs

A profile is a number of equal cubes, each with a Gaussian bump in the middle, to be advanced by
diffusion with zero gradient at the boundary. The bumps have four different widths in turn, and the
step is half the largest that is stable.
-/

namespace MethodOfLines

/-- **A run ready to be stepped.** -/
structure Profile (σ α : Type) where
  config : Config σ α
  grids : List (Grid α)
  dt : α

namespace Profile

variable {σ α : Type} [Scalar α]

/-- The square of the distance along an axis of point `c` from the middle of a unit side. The ghost
point is point 0. -/
def offsetSquared [OfScientific α] (h : α) (c : Nat) : α :=
  let x := ((c : α) - 0.5) * h - 0.5
  x * x

/-- The square of the distance of a point from the middle of a unit cube. -/
def radiusSquared [OfScientific α] (h : α) (i : Axes Nat) : α :=
  -(0 : α) + offsetSquared h i.i0 + offsetSquared h i.i1 + offsetSquared h i.i2

/-- The width of the bump of a grid. -/
def width [OfScientific α] (id : GridId) : α := 0.1 + 0.02 * ((id % 4 : Nat) : α)

/-- A Gaussian of a given width. -/
def gaussian [Exponential α] (width r2 : α) : α := Exponential.exp (-r2 / (width * width))

/-- **A cube with a bump**, its ghost points filled. -/
def bump [OfScientific α] [Exponential α] (id : GridId) (n : Nat) (h : α) :
    Except GridError (Grid α) := do
  let shape : Descriptor α ← Descriptor.make id (.uniform n) 1
  let d : Descriptor α := { shape with spacing := .uniform h, boundary := .extrapolation }
  let values : Vector α d.points :=
    Vector.ofFn fun p => gaussian (width id) (radiusSquared h (d.coordinates p))
  (← Grid.zeroed d 1).setState (fillGhosts d values).toArray

/-- **A profile** of `count` cubes with `n` interior points along each side. -/
def make [OfScientific α] [Exponential α] (count n streams : Nat) :
    Except GridError (Profile σ α) := do
  let coefficient : α := 0.1
  let h : α := 1 / (n : α)
  let grids ← (List.range count).mapM fun id => bump id n h
  return {
    config :=
      { scheme := Tableau.heun
        streamPoolSize := streams
        blockSize := 256
        rhs := Rhs.diffusion coefficient
        boundary := Enforcer.ghostCopy }
    grids
    dt := 0.5 * h * h / (6.0 * coefficient) }

/-- The profile that measurements refer to: four cubes of 32 points a side. -/
def reference [OfScientific α] [Exponential α] (streams : Nat) :
    Except GridError (Profile σ α) :=
  make 4 32 streams

end Profile

end MethodOfLines
