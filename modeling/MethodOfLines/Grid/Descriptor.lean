import MethodOfLines.Boundary.Condition
import MethodOfLines.Grid.Axes
import MethodOfLines.Grid.Error
import MethodOfLines.Grid.Word
import MethodOfLines.Scalar

/-!
# Grid/Descriptor — the shape of a grid

A grid is a box of interior points with a layer of ghost points, equally thick on every side. Its
points, ghosts included, are numbered with axis 0 fastest. A descriptor carries the two facts that
every later computation of a size rests on: no axis is empty, and the number of points fits a word.
-/

namespace MethodOfLines

/-- Extents with the ghost layers on both sides of every axis. -/
def padded (interior : Axes Nat) (ghosts : Nat) : Axes Nat :=
  interior.map (· + 2 * ghosts)

/-- Number of points of a box. -/
def volume (extent : Axes Nat) : Nat :=
  extent.i0 * extent.i1 * extent.i2

/-- **The shape of a grid**, fixed while it is stepped. -/
structure Descriptor (α : Type) where
  id : GridId
  /-- Interior points per axis. -/
  interior : Axes Nat
  /-- Thickness of the ghost layer. -/
  ghosts : Nat
  /-- Distance of neighbouring points per axis. -/
  spacing : Axes α
  /-- Outer boundary condition. -/
  boundary : BoundaryCondition
  interior_pos : 0 < interior.i0 ∧ 0 < interior.i1 ∧ 0 < interior.i2
  points_lt : volume (padded interior ghosts) < Word.limit

namespace Descriptor

variable {α : Type}

/-- The first axis without points. -/
def emptyAxis? (interior : Axes Nat) : Option Nat :=
  interior.toList.findIdx? (· == 0)

/-- The number of points of a padded box, formed word by word. -/
def countPoints? (interior : Axes Nat) (ghosts : Nat) : Option Nat := do
  let pad ← Word.mul? ghosts 2
  let n0 ← Word.add? interior.i0 pad
  let p0 ← Word.mul? 1 n0
  let n1 ← Word.add? interior.i1 pad
  let p1 ← Word.mul? p0 n1
  let n2 ← Word.add? interior.i2 pad
  Word.mul? p1 n2

theorem emptyAxis?_eq_none {interior : Axes Nat} :
    emptyAxis? interior = none ↔ 0 < interior.i0 ∧ 0 < interior.i1 ∧ 0 < interior.i2 := by
  simp [emptyAxis?, Axes.toList, List.findIdx?_eq_none_iff]
  omega

/-- A count that is formed is the volume of the padded box, and fits a word. -/
theorem countPoints?_eq_some {interior : Axes Nat} {ghosts points : Nat}
    (h : countPoints? interior ghosts = some points) :
    volume (padded interior ghosts) = points ∧ points < Word.limit := by
  simp only [countPoints?, Option.bind_eq_bind, Option.bind_eq_some_iff, Word.mul?_eq_some,
    Word.add?_eq_some] at h
  obtain ⟨_, ⟨rfl, _⟩, _, ⟨rfl, _⟩, _, ⟨rfl, _⟩, _, ⟨rfl, _⟩, _, ⟨rfl, _⟩, _, ⟨rfl, _⟩, rfl, h⟩ := h
  exact ⟨by simp [volume, padded, Axes.map, Nat.mul_comm], h⟩

/-- **A descriptor with unit spacing and extrapolation**, unless an axis is empty or the points are
too many to count. -/
def make [One α] (id : GridId) (interior : Axes Nat) (ghosts : Nat) :
    Except GridError (Descriptor α) :=
  match hAxis : emptyAxis? interior with
  | some axis => .error (.emptyAxis axis)
  | none =>
    match hCount : countPoints? interior ghosts with
    | none => .error .pointCountOverflow
    | some _ =>
      .ok
        { id, interior, ghosts
          spacing := .uniform 1
          boundary := .extrapolation
          interior_pos := emptyAxis?_eq_none.mp hAxis
          points_lt := by have h := countPoints?_eq_some hCount; rw [h.1]; exact h.2 }

/-- Points per axis, ghosts included. -/
def dims (d : Descriptor α) : Axes Nat := padded d.interior d.ghosts

/-- Number of points, ghosts included. -/
def points (d : Descriptor α) : Nat := volume d.dims

/-- **The number of a point**, axis 0 fastest. -/
def pointIndex (d : Descriptor α) (i : Axes Nat) : Nat :=
  i.i0 + d.dims.i0 * (i.i1 + d.dims.i1 * i.i2)

/-- The coordinates of a numbered point. -/
def coordinates (d : Descriptor α) (p : Nat) : Axes Nat :=
  ⟨p % d.dims.i0, (p / d.dims.i0) % d.dims.i1, p / (d.dims.i0 * d.dims.i1)⟩

/-- All coordinates, ghosts included, in the order of their numbers. -/
def box (d : Descriptor α) : List (Axes Nat) := Axes.box 0 d.dims

/-- The coordinates of the interior points. -/
def interiorBox (d : Descriptor α) : List (Axes Nat) := Axes.box d.ghosts d.interior

end Descriptor

end MethodOfLines
