/-!
# Grid/Axes — one value per axis, and walks over a box of coordinates

Coordinates are listed with the third axis outermost, so that axis 0 runs fastest, as in memory.
-/

namespace MethodOfLines

/-- **A value for each of the three axes.** -/
structure Axes (β : Type) where
  i0 : β
  i1 : β
  i2 : β
  deriving DecidableEq, Repr

namespace Axes

variable {β γ : Type}

/-- The same value on every axis. -/
def uniform (b : β) : Axes β := ⟨b, b, b⟩

/-- A function applied on every axis. -/
def map (f : β → γ) (a : Axes β) : Axes γ := ⟨f a.i0, f a.i1, f a.i2⟩

/-- The values in the order of the axes. -/
def toList (a : Axes β) : List β := [a.i0, a.i1, a.i2]

/-- **The coordinates of the box `first ≤ i < first + extent`**, axis 0 fastest. -/
def box (first : Nat) (extent : Axes Nat) : List (Axes Nat) :=
  (List.range' first extent.i2).flatMap fun i2 =>
    (List.range' first extent.i1).flatMap fun i1 =>
      (List.range' first extent.i0).map fun i0 => ⟨i0, i1, i2⟩

end Axes

end MethodOfLines
