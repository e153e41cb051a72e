import MethodOfLines.Operator.Basic

/-!
# Diffusion/Ghosts — ghost points filled from the interior

A ghost point takes the value of the interior point nearest to it, found by clamping its coordinates
axis by axis. The copying is done in place, point after point in the order of their numbers; a point
is only ever copied from the interior, which is never written.
-/

namespace MethodOfLines

namespace Descriptor

variable {α : Type}

/-- The coordinates of the interior point nearest to a point. -/
def nearest (d : Descriptor α) (i : Axes Nat) : Axes Nat :=
  let clamp (j dim : Nat) := max d.ghosts (min j (dim - d.ghosts - 1))
  ⟨clamp i.i0 d.dims.i0, clamp i.i1 d.dims.i1, clamp i.i2 d.dims.i2⟩

end Descriptor

/-- One element copied over another. -/
def copyElement {β : Type} {n : Nat} (v : Vector β n) (source target : Nat) : Vector β n :=
  if source = target then v
  else match v[source]? with
    | some b => v.setIfInBounds target b
    | none => v

/-- **The ghost points of the field that starts at `offset`, filled.** -/
def fillGhostsAt {α β : Type} {n : Nat} (d : Descriptor α) (offset : Nat) (v : Vector β n) :
    Vector β n :=
  if d.ghosts = 0 then v
  else d.box.foldl
    (fun v i => copyElement v (offset + d.pointIndex (d.nearest i)) (offset + d.pointIndex i)) v

/-- **The ghost points of a single field, filled.** -/
def fillGhosts {α β : Type} {n : Nat} (d : Descriptor α) (v : Vector β n) : Vector β n :=
  fillGhostsAt d 0 v

/-- **Zero gradient at the boundary**: the ghost points of every field are filled. A field beyond
the end of the buffer is a crash, after the fields before it. -/
def Enforcer.ghostCopy {σ α : Type} : Enforcer σ α where
  name := "ghost_copy"
  apply {n} ctx values memory :=
    let whole := ctx.wholeFields n
    ⟨if whole = ctx.fields then .done else .crashed,
      (List.range whole).foldl (fun v f => fillGhostsAt ctx.grid (f * ctx.points) v) values, memory⟩
  applyRadiation _ _ rates memory := ⟨.done, rates, memory⟩

end MethodOfLines
