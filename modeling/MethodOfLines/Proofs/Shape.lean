import Mathlib.Algebra.Ring.Nat
import Mathlib.Data.Prod.Lex
import Mathlib.Order.Interval.Set.Defs
import Mathlib.Data.Set.Function
import MethodOfLines.Proofs.Numbering
import MethodOfLines.Scalar.Rational

/-!
# Proofs/Shape — which shapes are accepted, and how the points of a shape are numbered

The number of points of a shape is formed word by word, and every partial result is at most the
last, because no axis is empty; so a shape is refused for its first empty axis or for a volume of
`2^64` or more, and for nothing else (`Descriptor.make_eq_error_pointCountOverflow`).  Once it is
accepted, extents and numbers are formed without a check, and all of them are below the number of
points.  The numbers are those of a mixed base: they run through the box in the lexicographic order
of the coordinates, last axis first (`Descriptor.pointIndex_lt_pointIndex`).
-/

namespace MethodOfLines

/-- Numbers in a base are compared by all but their last digits first. -/
theorem digit_lt_digit {i j base x y : Nat} (hi : i < base) (hj : j < base) :
    i + base * x < j + base * y ↔ x < y ∨ x = y ∧ i < j := by
  rcases Nat.lt_trichotomy x y with h | rfl | h
  · exact iff_of_true ((digit_lt hi h).trans_le (Nat.le_add_left ..)) (.inl h)
  · simp
  · have hge : j + base * y < base * x := digit_lt hj h
    omega

/-- **Coordinates in the order of memory**: the last axis is compared first. -/
def Axes.memoryOrder (i : Axes Nat) : Nat ×ₗ Nat ×ₗ Nat := toLex (i.i2, toLex (i.i1, i.i0))

theorem Axes.memoryOrder_lt {i j : Axes Nat} : i.memoryOrder < j.memoryOrder ↔
    i.i2 < j.i2 ∨ i.i2 = j.i2 ∧ (i.i1 < j.i1 ∨ i.i1 = j.i1 ∧ i.i0 < j.i0) := by
  simp [memoryOrder, Prod.Lex.toLex_lt_toLex]

namespace Descriptor

variable {α : Type} {d : Descriptor α} {i j : Axes Nat}

/-! ## Which shapes are accepted -/

theorem emptyAxis?_eq_none_iff {interior : Axes Nat} :
    emptyAxis? interior = none ↔ 0 ∉ interior.toList := by
  simp only [emptyAxis?, List.findIdx?_eq_none_iff, beq_eq_false_iff_ne]
  exact ⟨fun h hmem => h 0 hmem rfl, fun h n hn => ne_of_mem_of_not_mem hn h⟩

/-- The axis that is reported is the first without points. -/
theorem emptyAxis?_eq_some {interior : Axes Nat} {axis : Nat} :
    emptyAxis? interior = some axis ↔
      interior.toList[axis]? = some 0 ∧ ∀ j < axis, interior.toList[j]? ≠ some 0 := by
  simp only [emptyAxis?, List.findIdx?_eq_some_iff_getElem, List.getElem?_eq_some_iff]
  grind

section Make

variable [One α]

/-- **What can become of a shape**: it has an empty axis, it is too large, or it is accepted as it
is. -/
theorem make_cases (id : GridId) (interior : Axes Nat) (ghosts : Nat) :
    (∃ axis, emptyAxis? interior = some axis
        ∧ make (α := α) id interior ghosts = .error (.emptyAxis axis))
      ∨ (emptyAxis? interior = none ∧ Word.limit ≤ volume (padded interior ghosts)
        ∧ make (α := α) id interior ghosts = .error .pointCountOverflow)
      ∨ (emptyAxis? interior = none ∧ volume (padded interior ghosts) < Word.limit
        ∧ ∃ d : Descriptor α, make id interior ghosts = .ok d
          ∧ d.id = id ∧ d.interior = interior ∧ d.ghosts = ghosts) := by
  unfold make
  split
  · next axis haxis => exact .inl ⟨axis, haxis, rfl⟩
  · next hnone =>
    split
    · next hcount =>
      refine .inr (.inl ⟨hnone, Nat.le_of_not_lt fun hlt => ?_, rfl⟩)
      cases (countPoints?_of_lt (emptyAxis?_eq_none.mp hnone) hlt).symm.trans hcount
    · next hcount =>
      obtain ⟨rfl, hlt⟩ := countPoints?_eq_some hcount
      exact .inr (.inr ⟨hnone, hlt, _, rfl, rfl, rfl, rfl⟩)

variable {id : GridId} {interior : Axes Nat} {ghosts : Nat}

/-- **A shape is refused for its first empty axis.** -/
theorem make_eq_error_emptyAxis {axis : Nat} :
    make (α := α) id interior ghosts = .error (.emptyAxis axis) ↔
      emptyAxis? interior = some axis := by
  rcases make_cases (α := α) id interior ghosts with
    ⟨_, haxis, hmake⟩ | ⟨hnone, -, hmake⟩ | ⟨hnone, -, d, hmake, -⟩
  · simp [hmake, haxis]
  · simp [hmake, hnone]
  · simp [hmake, hnone]

/-- **A shape is refused for its size** if it has no empty axis and its points do not fit a word. -/
theorem make_eq_error_pointCountOverflow :
    make (α := α) id interior ghosts = .error .pointCountOverflow ↔
      emptyAxis? interior = none ∧ Word.limit ≤ volume (padded interior ghosts) := by
  rcases make_cases (α := α) id interior ghosts with
    ⟨_, haxis, hmake⟩ | ⟨hnone, hle, hmake⟩ | ⟨-, hlt, d, hmake, -⟩
  · simp [hmake, haxis]
  · simp [hmake, hnone, hle]
  · simp [hmake, hlt]

/-- **A shape is accepted** if it has no empty axis and its points fit a word. -/
theorem exists_make_eq_ok : (∃ d : Descriptor α, make id interior ghosts = .ok d) ↔
    emptyAxis? interior = none ∧ volume (padded interior ghosts) < Word.limit := by
  rcases make_cases (α := α) id interior ghosts with
    ⟨_, haxis, hmake⟩ | ⟨-, hle, hmake⟩ | ⟨hnone, hlt, d, hmake, -⟩
  · simp [hmake, haxis]
  · simp [hmake, hle]
  · simp [hmake, hnone, hlt]

theorem of_make_eq_ok (h : make id interior ghosts = .ok d) :
    d.id = id ∧ d.interior = interior ∧ d.ghosts = ghosts := by
  rcases make_cases (α := α) id interior ghosts with
    ⟨_, -, hmake⟩ | ⟨-, -, hmake⟩ | ⟨-, -, d', hmake, hd⟩
  · cases hmake.symm.trans h
  · cases hmake.symm.trans h
  · cases hmake.symm.trans h
    exact hd

/-- A shape that is accepted has the points of its padded box. -/
theorem points_of_make (h : make id interior ghosts = .ok d) :
    d.points = volume (padded interior ghosts) := by
  obtain ⟨-, rfl, rfl⟩ := of_make_eq_ok h
  rfl

end Make

/-! ## Extents and numbers fit a word -/

/-- The points per axis, formed word by word. -/
def dims? (d : Descriptor α) : Option (Axes Nat) := do
  let pad ← Word.mul? 2 d.ghosts
  let n0 ← Word.add? d.interior.i0 pad
  let n1 ← Word.add? d.interior.i1 pad
  let n2 ← Word.add? d.interior.i2 pad
  return ⟨n0, n1, n2⟩

/-- The number of a point, formed word by word. -/
def pointIndex? (d : Descriptor α) (i : Axes Nat) : Option Nat := do
  let n ← d.dims?
  let plane ← Word.mul? n.i1 i.i2
  let row ← Word.add? i.i1 plane
  let rest ← Word.mul? n.i0 row
  Word.add? i.i0 rest

theorem dims_le_points (d : Descriptor α) :
    d.dims.i0 ≤ d.points ∧ d.dims.i1 ≤ d.points ∧ d.dims.i2 ≤ d.points := by
  obtain ⟨h0, h1, h2⟩ := d.dims_pos
  have hplane : d.dims.i0 * d.dims.i1 ≤ d.points := Nat.le_mul_of_pos_right _ h2
  exact ⟨(Nat.le_mul_of_pos_right _ h1).trans hplane, (Nat.le_mul_of_pos_left _ h0).trans hplane,
    Nat.le_mul_of_pos_left _ (Nat.mul_pos h0 h1)⟩

/-- **The extents of a shape fit a word.** -/
theorem dims?_eq_some (d : Descriptor α) : d.dims? = some d.dims := by
  obtain ⟨h0, h1, h2⟩ := d.dims_le_points
  have hlt : d.points < Word.limit := d.points_lt
  have hpad : 2 * d.ghosts ≤ d.dims.i0 := Nat.le_add_left ..
  simp only [dims?, Option.bind_eq_bind, Option.bind_eq_some_iff, Word.mul?_eq_some,
    Word.add?_eq_some]
  exact ⟨_, ⟨rfl, by omega⟩, _, ⟨rfl, h0.trans_lt hlt⟩, _, ⟨rfl, h1.trans_lt hlt⟩, _,
    ⟨rfl, h2.trans_lt hlt⟩, rfl⟩

/-- **The number of a point fits a word**, and so does all that it is formed from. -/
theorem pointIndex?_eq_some (h : i ∈ d.box) : d.pointIndex? i = some (d.pointIndex i) := by
  have hlt : d.pointIndex i < Word.limit := (pointIndex_lt h).trans d.points_lt
  have hrest : d.dims.i0 * (i.i1 + d.dims.i1 * i.i2) ≤ d.pointIndex i := Nat.le_add_left ..
  have hrow : i.i1 + d.dims.i1 * i.i2 ≤ d.dims.i0 * (i.i1 + d.dims.i1 * i.i2) :=
    Nat.le_mul_of_pos_left _ d.dims_pos.1
  have hplane : d.dims.i1 * i.i2 ≤ i.i1 + d.dims.i1 * i.i2 := Nat.le_add_left ..
  simp only [pointIndex?, dims?_eq_some, Option.bind_eq_bind, Option.bind_some,
    Option.bind_eq_some_iff, Word.mul?_eq_some, Word.add?_eq_some]
  exact ⟨_, ⟨rfl, by omega⟩, _, ⟨rfl, by omega⟩, _, ⟨rfl, by omega⟩, rfl, hlt⟩

/-! ## The numbering -/

/-- **Points are numbered in the order of memory.** -/
theorem pointIndex_lt_pointIndex (hi : i ∈ d.box) (hj : j ∈ d.box) :
    d.pointIndex i < d.pointIndex j ↔ i.memoryOrder < j.memoryOrder := by
  obtain ⟨hi0, hi1, -⟩ := mem_box.mp hi
  obtain ⟨hj0, hj1, -⟩ := mem_box.mp hj
  -- Axis 0 is the last digit, so rows are compared first; two points in one row agree on both
  -- other axes.
  have hrow : i.i1 + d.dims.i1 * i.i2 = j.i1 + d.dims.i1 * j.i2 ↔ i.i2 = j.i2 ∧ i.i1 = j.i1 := by
    refine ⟨fun h => ?_, fun h => by rw [h.1, h.2]⟩
    obtain ⟨himod, hidiv⟩ := digit_mod_div i.i2 hi1
    obtain ⟨hjmod, hjdiv⟩ := digit_mod_div j.i2 hj1
    exact ⟨by rw [← hidiv, h, hjdiv], by rw [← himod, h, hjmod]⟩
  rw [pointIndex, pointIndex, digit_lt_digit hi0 hj0, digit_lt_digit hi1 hj1, hrow,
    Axes.memoryOrder_lt, and_or_left, and_assoc, or_assoc]

/-- The coordinates within the extents of a shape. -/
def inRange (d : Descriptor α) : Set (Axes Nat) :=
  {i | i.i0 < d.dims.i0 ∧ i.i1 < d.dims.i1 ∧ i.i2 < d.dims.i2}

theorem mem_inRange : i ∈ d.inRange ↔ i ∈ d.box := mem_box.symm

theorem pointIndex_mapsTo (d : Descriptor α) :
    Set.MapsTo d.pointIndex d.inRange (Set.Iio d.points) :=
  fun _ h => pointIndex_lt (mem_inRange.mp h)

theorem coordinates_mapsTo (d : Descriptor α) :
    Set.MapsTo d.coordinates (Set.Iio d.points) d.inRange :=
  fun _ h => mem_inRange.mpr (pointIndex_coordinates h).1

/-- **Numbers and coordinates are inverse to each other.** -/
theorem coordinates_invOn (d : Descriptor α) :
    Set.InvOn d.coordinates d.pointIndex d.inRange (Set.Iio d.points) :=
  ⟨fun _ h => coordinates_pointIndex (mem_inRange.mp h), fun _ h => (pointIndex_coordinates h).2⟩

/-- **How the points of a shape are numbered**: extents and numbers are formed without overflow, and
the numbers below the number of points stand for the coordinates in range, in the order of memory.
-/
structure Numbered (d : Descriptor α) : Prop where
  dims : d.dims? = some d.dims
  points : d.points = d.dims.i0 * d.dims.i1 * d.dims.i2
  count : countPoints? d.interior d.ghosts = some d.points
  index : ∀ i ∈ d.inRange, d.pointIndex? i = some (d.pointIndex i)
  bijOn : Set.BijOn d.pointIndex d.inRange (Set.Iio d.points)
  order : ∀ i ∈ d.inRange, ∀ j ∈ d.inRange,
    (i.memoryOrder < j.memoryOrder ↔ d.pointIndex i < d.pointIndex j)
  inverse : Set.InvOn d.coordinates d.pointIndex d.inRange (Set.Iio d.points)

theorem numbered (d : Descriptor α) : d.Numbered where
  dims := d.dims?_eq_some
  points := rfl
  count := countPoints?_of_lt d.interior_pos d.points_lt
  index _ hi := pointIndex?_eq_some (mem_inRange.mp hi)
  bijOn := d.coordinates_invOn.bijOn d.pointIndex_mapsTo d.coordinates_mapsTo
  order _ hi _ hj := (pointIndex_lt_pointIndex (mem_inRange.mp hi) (mem_inRange.mp hj)).symm
  inverse := d.coordinates_invOn

/-- **A shape is accepted exactly if it can be numbered.** Its first empty axis is reported if there
is one; without one it is accepted if its padded volume is below `2^64` and is too large if not. The
points of an accepted shape are numbered one to one, in the order of memory. -/
theorem make_accepts_exactly [One α] (id : GridId) (interior : Axes Nat) (ghosts : Nat) :
    (∀ axis, make (α := α) id interior ghosts = .error (.emptyAxis axis) ↔
        interior.toList[axis]? = some 0 ∧ ∀ j < axis, interior.toList[j]? ≠ some 0)
      ∧ ((∃ d : Descriptor α, make id interior ghosts = .ok d) ↔ 0 ∉ interior.toList
        ∧ (interior.i0 + 2 * ghosts) * (interior.i1 + 2 * ghosts) * (interior.i2 + 2 * ghosts)
          < 2 ^ 64)
      ∧ (make (α := α) id interior ghosts = .error .pointCountOverflow ↔ 0 ∉ interior.toList
        ∧ 2 ^ 64 ≤
          (interior.i0 + 2 * ghosts) * (interior.i1 + 2 * ghosts) * (interior.i2 + 2 * ghosts))
      ∧ ∀ d : Descriptor α, make id interior ghosts = .ok d →
        d.id = id ∧ d.interior = interior ∧ d.ghosts = ghosts ∧ d.Numbered := by
  refine ⟨fun axis => make_eq_error_emptyAxis.trans emptyAxis?_eq_some,
    exists_make_eq_ok.trans (and_congr_left' emptyAxis?_eq_none_iff),
    make_eq_error_pointCountOverflow.trans (and_congr_left' emptyAxis?_eq_none_iff), ?_⟩
  intro d hd
  obtain ⟨hid, hinterior, hghosts⟩ := of_make_eq_ok hd
  exact ⟨hid, hinterior, hghosts, d.numbered⟩

theorem make_accepts_exactly_padded :
    make (α := Rat) 0 ⟨4, 0, 0⟩ 1 = .error (.emptyAxis 1)
      ∧ make (α := Rat) 0 ⟨2 ^ 63 - 1, 4, 1⟩ 0 = .error .pointCountOverflow
      ∧ ∃ d : Descriptor Rat, make 3 ⟨10, 4, 1⟩ 2 = .ok d ∧ d.Numbered := by
  refine ⟨((make_accepts_exactly 0 ⟨4, 0, 0⟩ 1).1 1).mpr (by decide),
    (make_accepts_exactly 0 ⟨2 ^ 63 - 1, 4, 1⟩ 0).2.2.1.mpr (by decide), ?_⟩
  obtain ⟨-, haccepted, -, hnumbered⟩ := make_accepts_exactly (α := Rat) 3 ⟨10, 4, 1⟩ 2
  obtain ⟨d, hd⟩ := haccepted.mpr (by decide)
  exact ⟨d, hd, (hnumbered d hd).2.2.2⟩

end Descriptor

end MethodOfLines
