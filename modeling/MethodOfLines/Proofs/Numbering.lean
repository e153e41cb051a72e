import MethodOfLines.Diffusion.Ghosts

/-!
# Proofs/Numbering — the points of a grid and their numbers

The numbers of the points of a box are the digits of their coordinates in a mixed base, so numbers
and coordinates determine each other (`Descriptor.coordinates_pointIndex`,
`Descriptor.pointIndex_coordinates`).  The interior point nearest to a point is in the interior, and
an interior point is nearest to itself.
-/

namespace MethodOfLines

/-- A digit and a number in a base. -/
theorem digit_lt {i base x m : Nat} (hi : i < base) (hx : x < m) : i + base * x < base * m := by
  calc i + base * x < base + base * x := Nat.add_lt_add_right hi _
    _ = base * (x + 1) := by rw [Nat.mul_succ, Nat.add_comm]
    _ ≤ base * m := Nat.mul_le_mul_left _ hx

/-- A digit and a number can be told apart again. -/
theorem digit_mod_div {i base : Nat} (x : Nat) (hi : i < base) :
    (i + base * x) % base = i ∧ (i + base * x) / base = x := by
  constructor
  · rw [Nat.add_mul_mod_self_left, Nat.mod_eq_of_lt hi]
  · rw [Nat.add_mul_div_left _ _ (Nat.zero_lt_of_lt hi), Nat.div_eq_of_lt hi, Nat.zero_add]

namespace Axes

theorem mem_box {first : Nat} {extent i : Axes Nat} :
    i ∈ box first extent ↔ (first ≤ i.i0 ∧ i.i0 < first + extent.i0)
      ∧ (first ≤ i.i1 ∧ i.i1 < first + extent.i1) ∧ first ≤ i.i2 ∧ i.i2 < first + extent.i2 := by
  obtain ⟨i0, i1, i2⟩ := i
  simp only [box, List.mem_flatMap, List.mem_map, List.mem_range'_1, mk.injEq]
  constructor
  · rintro ⟨_, h2, _, h1, _, h0, rfl, rfl, rfl⟩
    exact ⟨h0, h1, h2⟩
  · rintro ⟨h0, h1, h2⟩
    exact ⟨i2, h2, i1, h1, i0, h0, rfl, rfl, rfl⟩

end Axes

namespace Descriptor

variable {α : Type} {d : Descriptor α} {i j : Axes Nat}

theorem mem_box : i ∈ d.box ↔ i.i0 < d.dims.i0 ∧ i.i1 < d.dims.i1 ∧ i.i2 < d.dims.i2 := by
  simp [box, Axes.mem_box]

theorem mem_interiorBox : i ∈ d.interiorBox ↔
    (d.ghosts ≤ i.i0 ∧ i.i0 < d.ghosts + d.interior.i0)
      ∧ (d.ghosts ≤ i.i1 ∧ i.i1 < d.ghosts + d.interior.i1)
      ∧ d.ghosts ≤ i.i2 ∧ i.i2 < d.ghosts + d.interior.i2 :=
  Axes.mem_box

/-! ## Numbers -/

theorem points_eq (d : Descriptor α) : d.points = d.dims.i0 * (d.dims.i1 * d.dims.i2) :=
  Nat.mul_assoc ..

theorem pointIndex_lt (h : i ∈ d.box) : d.pointIndex i < d.points := by
  obtain ⟨h0, h1, h2⟩ := mem_box.mp h
  rw [points_eq]
  exact digit_lt h0 (digit_lt h1 h2)

/-- **The coordinates of a point's number are its coordinates.** -/
theorem coordinates_pointIndex (h : i ∈ d.box) : d.coordinates (d.pointIndex i) = i := by
  obtain ⟨h0, h1, -⟩ := mem_box.mp h
  obtain ⟨hmod, hdiv⟩ := digit_mod_div (i.i1 + d.dims.i1 * i.i2) h0
  obtain ⟨hmod', hdiv'⟩ := digit_mod_div i.i2 h1
  rw [coordinates, pointIndex, ← Nat.div_div_eq_div_mul, hmod, hdiv, hmod', hdiv']

/-- **Different points have different numbers.** -/
theorem pointIndex_inj (hi : i ∈ d.box) (hj : j ∈ d.box) :
    d.pointIndex i = d.pointIndex j ↔ i = j := by
  refine ⟨fun h => ?_, fun h => h ▸ rfl⟩
  rw [← coordinates_pointIndex hi, h, coordinates_pointIndex hj]

theorem dims_pos (d : Descriptor α) : 0 < d.dims.i0 ∧ 0 < d.dims.i1 ∧ 0 < d.dims.i2 := by
  obtain ⟨h0, h1, h2⟩ := d.interior_pos
  exact ⟨Nat.add_pos_left h0 _, Nat.add_pos_left h1 _, Nat.add_pos_left h2 _⟩

theorem points_pos (d : Descriptor α) : 0 < d.points := by
  obtain ⟨h0, h1, h2⟩ := d.dims_pos
  exact Nat.mul_pos (Nat.mul_pos h0 h1) h2

/-- **Every number below the count is the number of its coordinates.** -/
theorem pointIndex_coordinates {p : Nat} (h : p < d.points) :
    d.coordinates p ∈ d.box ∧ d.pointIndex (d.coordinates p) = p := by
  obtain ⟨h0, h1, -⟩ := d.dims_pos
  have hlt : p / (d.dims.i0 * d.dims.i1) < d.dims.i2 := Nat.div_lt_of_lt_mul h
  refine ⟨mem_box.mpr ⟨Nat.mod_lt _ h0, Nat.mod_lt _ h1, hlt⟩, ?_⟩
  rw [coordinates, pointIndex, ← Nat.div_div_eq_div_mul, Nat.mod_add_div, Nat.mod_add_div]

/-! ## The nearest interior point -/

theorem mem_box_of_interior (h : i ∈ d.interiorBox) : i ∈ d.box := by
  obtain ⟨h0, h1, h2⟩ := mem_interiorBox.mp h
  simp only [mem_box, dims, padded, Axes.map]
  omega

theorem nearest_mem (d : Descriptor α) (i : Axes Nat) : d.nearest i ∈ d.interiorBox := by
  obtain ⟨h0, h1, h2⟩ := d.interior_pos
  simp only [mem_interiorBox, nearest, dims, padded, Axes.map]
  omega

/-- **An interior point is nearest to itself.** -/
theorem nearest_of_interior (h : i ∈ d.interiorBox) : d.nearest i = i := by
  obtain ⟨i0, i1, i2⟩ := i
  have hi := mem_interiorBox.mp h
  simp only [nearest, dims, padded, Axes.map, Axes.mk.injEq] at hi ⊢
  omega

theorem nearest_nearest (d : Descriptor α) (i : Axes Nat) :
    d.nearest (d.nearest i) = d.nearest i :=
  nearest_of_interior (d.nearest_mem i)

/-- Without ghost points every point is in the interior. -/
theorem mem_interiorBox_of_ghosts (hg : d.ghosts = 0) (h : i ∈ d.box) : i ∈ d.interiorBox := by
  have hi := mem_box.mp h
  simp only [mem_interiorBox, dims, padded, Axes.map] at hi ⊢
  omega

/-- The points of a box that fits a word can be counted. -/
theorem countPoints?_of_lt {interior : Axes Nat} {ghosts : Nat}
    (hpos : 0 < interior.i0 ∧ 0 < interior.i1 ∧ 0 < interior.i2)
    (h : volume (padded interior ghosts) < Word.limit) :
    countPoints? interior ghosts = some (volume (padded interior ghosts)) := by
  obtain ⟨n0, n1, n2⟩ := interior
  obtain ⟨h0, h1, h2⟩ := hpos
  simp only [volume, padded, Axes.map, Nat.mul_comm 2 ghosts] at h0 h1 h2 h ⊢
  have hplane := Nat.le_mul_of_pos_right ((n0 + ghosts * 2) * (n1 + ghosts * 2))
    (show 0 < n2 + ghosts * 2 by omega)
  have hline := Nat.le_mul_of_pos_right (n0 + ghosts * 2) (show 0 < n1 + ghosts * 2 by omega)
  have hline' := Nat.le_mul_of_pos_left (n1 + ghosts * 2) (show 0 < n0 + ghosts * 2 by omega)
  have hlast := Nat.le_mul_of_pos_left (n2 + ghosts * 2)
    (Nat.mul_pos (show 0 < n0 + ghosts * 2 by omega) (show 0 < n1 + ghosts * 2 by omega))
  have hfits : ∀ {k : Nat}, k < Word.limit → Word.ofNat? k = some k := fun hk => if_pos hk
  simp only [countPoints?, Word.mul?, Word.add?, Nat.one_mul, Option.bind_eq_bind]
  rw [hfits (by omega), Option.bind_some, hfits (by omega), Option.bind_some, hfits (by omega),
    Option.bind_some, hfits (by omega), Option.bind_some, hfits (by omega), Option.bind_some,
    hfits (by omega), Option.bind_some, hfits h]

/-- **A shape is accepted** if no axis is empty and its points can be counted. -/
theorem make_eq_ok [One α] (id : GridId) {interior : Axes Nat} {ghosts : Nat}
    (hpos : 0 < interior.i0 ∧ 0 < interior.i1 ∧ 0 < interior.i2)
    (h : volume (padded interior ghosts) < Word.limit) :
    make (α := α) id interior ghosts
      = .ok ⟨id, interior, ghosts, .uniform 1, .extrapolation, hpos, h⟩ := by
  unfold make
  split
  · next axis haxis => cases (emptyAxis?_eq_none.mpr hpos).symm.trans haxis
  · split
    · next hcount => cases (countPoints?_of_lt hpos h).symm.trans hcount
    · rfl

end Descriptor

end MethodOfLines
