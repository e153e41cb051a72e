import MethodOfLines.Grid.Basic
import MethodOfLines.Operator.Basic

/-!
# Diffusion/Laplacian — the seven-point stencil

The rate of an interior point is the diffusion coefficient times the sum of the second differences
along the axes; ghost points have rate zero. The order of the roundings is fixed: along an axis the
lower neighbour, minus twice the centre, the upper neighbour, then the scale; the axes from the
first to the third, starting from a negative zero.
-/

namespace MethodOfLines

variable {α : Type}

/-- Distance in memory between neighbours along each axis. -/
def Descriptor.strides (d : Descriptor α) : Axes Nat :=
  ⟨1, d.dims.i0, d.dims.i0 * d.dims.i1⟩

variable [Scalar α]

/-- The second difference of `y` at `p` along an axis, scaled by `w`. -/
def secondDifference (y : Nat → α) (p stride : Nat) (w : α) : α :=
  (y (p - stride) + (-((2 : Nat) : α)) * y p + y (p + stride)) * w

/-- **The discrete Laplacian** of `y` at point `p`. -/
def laplacian (y : Nat → α) (strides : Axes Nat) (weights : Axes α) (p : Nat) : α :=
  -(0 : α) + secondDifference y p strides.i0 weights.i0
    + secondDifference y p strides.i1 weights.i1
    + secondDifference y p strides.i2 weights.i2

/-- Element `i` of a buffer, zero beyond its end. -/
def elementAt {m : Nat} (v : Vector α m) (i : Nat) : α := (v[i]?).getD 0

/-- The rates of the field that starts at `offset`, written at its interior points. -/
def diffuseField {m n : Nat} (coefficient : α) (d : Descriptor α) (offset : Nat)
    (input : Vector α m) (output : Vector α n) : Vector α n :=
  let weights := d.spacing.map fun h => 1 / (h * h)
  let y := fun p => elementAt input (offset + p)
  d.interiorBox.foldl (fun out i =>
    let p := d.pointIndex i
    out.setIfInBounds (offset + p) (coefficient * laplacian y d.strides weights p)) output

/-- **Diffusion.** It needs a ghost point on either side; a field beyond the end of a buffer is a
crash, after the fields before it. -/
def Rhs.diffusion {σ : Type} (coefficient : α) : Rhs σ α where
  name := "diffusion"
  evaluate {m n} ctx input output memory :=
    if ctx.grid.ghosts = 0 then
      ⟨.failed (.executionFailed "diffusion stencil needs a ghost zone"), output, memory⟩
    else
      let whole := min (ctx.wholeFields m) (ctx.wholeFields n)
      ⟨if whole = ctx.fields then .done else .crashed,
        (List.range whole).foldl
          (fun out f => diffuseField coefficient ctx.grid (f * ctx.points) input out)
          (output.map fun _ => 0), memory⟩

/-- **The sum of a field over the interior**, in the order of the points. -/
def interiorSum (g : Grid α) (f : Nat) : α :=
  let d := g.descriptor
  d.interiorBox.foldl
    (fun sum i => sum + elementAt (g.functions.buffer .state) (f * d.points + d.pointIndex i)) 0

end MethodOfLines
