import MethodOfLines.Diffusion.Laplacian
import MethodOfLines.Proofs.Ghosts

/-!
# Proofs/Stencil — diffusion reads true neighbours and writes every rate

A step of one along an axis is a step of that axis's stride in memory
(`Descriptor.pointIndex_upper`, `Descriptor.pointIndex_lower`), so with a ghost point on either side
the stencil of an interior point reads its neighbours and nothing else.  `Rhs.evaluate_diffusion`
says what diffusion leaves: the rate of every interior point of every field, and zero elsewhere,
whatever the output held before.

`diffuseField?` is the same walk with every access checked, and it never stops
(`diffuseField?_eq_some`).
-/

namespace MethodOfLines

/-! ## Neighbours -/

/-- The three axes. -/
inductive Axis where
  | first
  | second
  | third

namespace Axes

/-- The value on an axis. -/
def get {β : Type} (a : Axes β) : Axis → β
  | .first => a.i0
  | .second => a.i1
  | .third => a.i2

/-- One coordinate changed. -/
def modify (i : Axes Nat) (f : Nat → Nat) : Axis → Axes Nat
  | .first => { i with i0 := f i.i0 }
  | .second => { i with i1 := f i.i1 }
  | .third => { i with i2 := f i.i2 }

/-- The next point along an axis. -/
def upper (i : Axes Nat) (axis : Axis) : Axes Nat := i.modify (· + 1) axis

/-- The point before along an axis. -/
def lower (i : Axes Nat) (axis : Axis) : Axes Nat := i.modify (· - 1) axis

end Axes

namespace Descriptor

variable {α : Type} {d : Descriptor α} {i : Axes Nat}

/-- **One step up an axis is one stride.** -/
theorem pointIndex_upper (d : Descriptor α) (i : Axes Nat) (axis : Axis) :
    d.pointIndex (i.upper axis) = d.pointIndex i + d.strides.get axis := by
  cases axis <;> simp only [Axes.upper, Axes.modify, pointIndex, strides, Axes.get, Nat.mul_add,
    Nat.mul_one] <;> omega

variable (hg : 1 ≤ d.ghosts) (hi : i ∈ d.interiorBox)

include hg hi in
/-- The neighbours of an interior point are points of the grid. -/
theorem neighbours_mem (axis : Axis) : i.lower axis ∈ d.box ∧ i.upper axis ∈ d.box := by
  have hmem := mem_interiorBox.mp hi
  cases axis <;> simp only [mem_box, Axes.lower, Axes.upper, Axes.modify, dims, padded, Axes.map]
    <;> omega

include hg hi in
/-- **One step down an axis is one stride.** -/
theorem pointIndex_lower (axis : Axis) :
    d.pointIndex (i.lower axis) + d.strides.get axis = d.pointIndex i := by
  have hmem := mem_interiorBox.mp hi
  have hup : (i.lower axis).upper axis = i := by
    obtain ⟨i0, i1, i2⟩ := i
    cases axis <;> simp only [Axes.lower, Axes.upper, Axes.modify, Axes.mk.injEq, and_true,
      true_and] at hmem ⊢ <;> omega
  rw [← pointIndex_upper, hup]

end Descriptor

/-! ## One field -/

section Field

variable {α β ι : Type} {n : Nat}

/-- What is not written stays. -/
theorem getElem?_foldl_set_of_ne (target : ι → Nat) (value : ι → β) {l : List ι} {k : Nat}
    (h : ∀ i ∈ l, target i ≠ k) (v : Vector β n) :
    (l.foldl (fun v i => v.setIfInBounds (target i) (value i)) v)[k]? = v[k]? := by
  induction l generalizing v with
  | nil => rfl
  | cons i l ih =>
    obtain ⟨hi, hl⟩ := List.forall_mem_cons.mp h
    rw [List.foldl_cons, ih hl, Vector.getElem?_setIfInBounds_ne hi]

/-- **What is written can be read**, if the value depends on the place alone. -/
theorem getElem?_foldl_set (target : ι → Nat) (value : Nat → β) {l : List ι} {k : Nat}
    (h : ∃ i ∈ l, target i = k) (hk : k < n) (v : Vector β n) :
    (l.foldl (fun v i => v.setIfInBounds (target i) (value (target i))) v)[k]?
      = some (value k) := by
  induction l generalizing v with
  | nil => obtain ⟨i, hi, -⟩ := h; exact absurd hi List.not_mem_nil
  | cons j l ih =>
    rw [List.foldl_cons]
    by_cases hagain : ∃ i ∈ l, target i = k
    · exact ih hagain _
    · obtain ⟨i, hi, rfl⟩ := h
      rcases List.mem_cons.mp hi with rfl | hi
      · rw [getElem?_foldl_set_of_ne target (fun i => value (target i))
          fun i hi heq => hagain ⟨i, hi, heq⟩]
        simp [hk]
      · exact absurd ⟨i, hi, rfl⟩ hagain

variable [Scalar α] {m : Nat} {d : Descriptor α} {offset : Nat} {i : Axes Nat}

/-- The weights of the second differences. -/
def Descriptor.weights (d : Descriptor α) : Axes α := d.spacing.map fun h => 1 / (h * h)

/-- **The second difference of an interior point is taken between its neighbours.** -/
theorem secondDifference_pointIndex (hg : 1 ≤ d.ghosts) (hi : i ∈ d.interiorBox) (y : Nat → α)
    (axis : Axis) (w : α) :
    secondDifference y (d.pointIndex i) (d.strides.get axis) w
      = (y (d.pointIndex (i.lower axis)) + (-((2 : Nat) : α)) * y (d.pointIndex i)
        + y (d.pointIndex (i.upper axis))) * w := by
  have hdown := Descriptor.pointIndex_lower hg hi axis
  have hbelow : d.pointIndex i - d.strides.get axis = d.pointIndex (i.lower axis) := by omega
  rw [secondDifference, hbelow, d.pointIndex_upper]

/-- **The rate of an interior point** of the field at `offset`. -/
def rateAt (coefficient : α) (d : Descriptor α) (offset : Nat) (input : Vector α m) (p : Nat) : α :=
  coefficient * laplacian (fun p => elementAt input (offset + p)) d.strides d.weights p

/-- **An interior point gets its rate.** -/
theorem getElem?_diffuseField (coefficient : α) (h : offset + d.points ≤ n) (input : Vector α m)
    (output : Vector α n) (hi : i ∈ d.interiorBox) :
    (diffuseField coefficient d offset input output)[offset + d.pointIndex i]?
      = some (rateAt coefficient d offset input (d.pointIndex i)) := by
  have hlt := Descriptor.pointIndex_lt (Descriptor.mem_box_of_interior hi)
  have hfold := getElem?_foldl_set (fun i => offset + d.pointIndex i)
    (fun k => rateAt coefficient d offset input (k - offset)) ⟨i, hi, rfl⟩ (by omega) output
  simp only [Nat.add_sub_cancel_left] at hfold
  exact hfold

/-- What is not an interior point of the field stays. -/
theorem getElem?_diffuseField_of_ne (coefficient : α) {k : Nat}
    (h : ∀ i ∈ d.interiorBox, offset + d.pointIndex i ≠ k) (input : Vector α m)
    (output : Vector α n) :
    (diffuseField coefficient d offset input output)[k]? = output[k]? :=
  getElem?_foldl_set_of_ne (fun i => offset + d.pointIndex i)
    (fun i => rateAt coefficient d offset input (d.pointIndex i)) h output

/-! ### Every access checked -/

/-- Element `p` of a part of a buffer, if both lie where they should. -/
def partElement? (v : Vector α m) (offset length p : Nat) : Option α :=
  if p < length then v[offset + p]? else none

/-- The second difference, if the lower neighbour has a number and all three values are there. -/
def secondDifference? (y? : Nat → Option α) (p stride : Nat) (w : α) : Option α :=
  if stride ≤ p then do
    let below ← y? (p - stride)
    let centre ← y? p
    let above ← y? (p + stride)
    return (below + (-((2 : Nat) : α)) * centre + above) * w
  else none

/-- The discrete Laplacian, if all values it reads are there. -/
def laplacian? (y? : Nat → Option α) (strides : Axes Nat) (weights : Axes α) (p : Nat) :
    Option α := do
  let d0 ← secondDifference? y? p strides.i0 weights.i0
  let d1 ← secondDifference? y? p strides.i1 weights.i1
  let d2 ← secondDifference? y? p strides.i2 weights.i2
  return -(0 : α) + d0 + d1 + d2

/-- **The rates of a field with every access checked.**  There is no result if the field does not
lie within both buffers, if an axis is shorter than a ghost layer, if a neighbour has no number or
if a point that is read or written lies beyond the field. -/
def diffuseField? (coefficient : α) (d : Descriptor α) (offset : Nat) (input : Vector α m)
    (output : Vector α n) : Option (Vector α n) :=
  if offset + d.points ≤ m ∧ offset + d.points ≤ n
      ∧ ∀ extent ∈ d.dims.toList, d.ghosts ≤ extent then
    d.interiorBox.foldlM (fun out i => do
      let p := d.pointIndex i
      let rate ← laplacian? (partElement? input offset d.points) d.strides d.weights p
      if p < d.points then return out.setIfInBounds (offset + p) (coefficient * rate)
      else none) output
  else none

/-- A field of a buffer can be read at every point. -/
theorem getElem?_point (h : offset + d.points ≤ m) (v : Vector α m) (hi : i ∈ d.box) :
    v[offset + d.pointIndex i]? = some (elementAt v (offset + d.pointIndex i)) := by
  have hlt := Descriptor.pointIndex_lt hi
  have hm : offset + d.pointIndex i < m := by omega
  rw [elementAt, Vector.getElem?_eq_getElem hm, Option.getD_some]

theorem partElement?_eq_some (h : offset + d.points ≤ m) (v : Vector α m) (hi : i ∈ d.box) :
    partElement? v offset d.points (d.pointIndex i)
      = some (elementAt v (offset + d.pointIndex i)) := by
  rw [partElement?, if_pos (Descriptor.pointIndex_lt hi), getElem?_point h v hi]

/-- **The stencil of an interior point reads points of its field.** -/
theorem secondDifference?_eq_some (h : offset + d.points ≤ m) (hg : 1 ≤ d.ghosts)
    (hi : i ∈ d.interiorBox) (input : Vector α m) (axis : Axis) (w : α) :
    secondDifference? (partElement? input offset d.points) (d.pointIndex i) (d.strides.get axis) w
      = some (secondDifference (fun p => elementAt input (offset + p)) (d.pointIndex i)
        (d.strides.get axis) w) := by
  obtain ⟨hlower, hupper⟩ := Descriptor.neighbours_mem hg hi axis
  have hdown := Descriptor.pointIndex_lower hg hi axis
  have hbelow : d.pointIndex i - d.strides.get axis = d.pointIndex (i.lower axis) := by omega
  rw [secondDifference?, if_pos (by omega), secondDifference_pointIndex hg hi, hbelow,
    ← d.pointIndex_upper, partElement?_eq_some h input hlower, partElement?_eq_some h input hupper,
    partElement?_eq_some h input (Descriptor.mem_box_of_interior hi)]
  rfl

/-- **No access is out of range**, if the field lies within both buffers and there is a ghost point
on either side. -/
theorem diffuseField?_eq_some (coefficient : α) (hm : offset + d.points ≤ m)
    (hn : offset + d.points ≤ n) (hg : 1 ≤ d.ghosts) (input : Vector α m) (output : Vector α n) :
    diffuseField? coefficient d offset input output
      = some (diffuseField coefficient d offset input output) := by
  have haxes : ∀ extent ∈ d.dims.toList, d.ghosts ≤ extent := by
    simp only [Axes.toList, Descriptor.dims, padded, Axes.map, List.mem_cons, List.not_mem_nil,
      or_false, forall_eq_or_imp, forall_eq]
    omega
  rw [diffuseField?, if_pos ⟨hm, hn, haxes⟩]
  refine foldlM_eq_some (fun i hi out => ?_) output
  have hlt := Descriptor.pointIndex_lt (Descriptor.mem_box_of_interior hi)
  have hstencil := secondDifference?_eq_some hm hg hi input
  have hlaplacian : laplacian? (partElement? input offset d.points) d.strides d.weights
      (d.pointIndex i) = some (laplacian (fun p => elementAt input (offset + p)) d.strides d.weights
        (d.pointIndex i)) := by
    have h0 := hstencil .first d.weights.i0
    have h1 := hstencil .second d.weights.i1
    have h2 := hstencil .third d.weights.i2
    simp only [Axes.get] at h0 h1 h2
    rw [laplacian?, h0, h1, h2]
    rfl
  simp only [hlaplacian, Option.bind_eq_bind, Option.bind_some, if_pos hlt]
  rfl

end Field

/-! ## All fields -/

section Fields

variable {σ α : Type} [Scalar α] {m n : Nat} {d : Descriptor α}

/-- The rates of the first fields, written at their interior points. -/
def diffuseFields (coefficient : α) (d : Descriptor α) (fields : Nat) (input : Vector α m)
    (output : Vector α n) : Vector α n :=
  (List.range fields).foldl
    (fun out f => diffuseField coefficient d (f * d.points) input out) output

theorem diffuseFields_succ (coefficient : α) (d : Descriptor α) (fields : Nat) (input : Vector α m)
    (output : Vector α n) :
    diffuseFields coefficient d (fields + 1) input output
      = diffuseField coefficient d (fields * d.points) input
        (diffuseFields coefficient d fields input output) := by
  rw [diffuseFields, List.range_succ, List.foldl_append]
  rfl

/-- **An interior point gets its rate in its own field.** -/
theorem getElem?_diffuseFields (coefficient : α) {fields : Nat} (h : fields * d.points ≤ n)
    (input : Vector α m) (output : Vector α n) {f : Nat} (hf : f < fields) {i : Axes Nat}
    (hi : i ∈ d.interiorBox) :
    (diffuseFields coefficient d fields input output)[f * d.points + d.pointIndex i]?
      = some (rateAt coefficient d (f * d.points) input (d.pointIndex i)) := by
  induction fields with
  | zero => exact absurd hf (Nat.not_lt_zero f)
  | succ fields ih =>
    have hend := field_end_le d.points (Nat.lt_add_one fields)
    rw [diffuseFields_succ]
    rcases Nat.lt_succ_iff_lt_or_eq.mp hf with hlt | rfl
    · have hpoint := Descriptor.pointIndex_lt (Descriptor.mem_box_of_interior hi)
      have hbefore := field_end_le d.points hlt
      rw [getElem?_diffuseField_of_ne coefficient (fun _ _ => by omega), ih (by omega) hlt]
    · exact getElem?_diffuseField coefficient (by omega) input _ hi

/-- The rates of the first fields with every access checked. -/
def diffuseFields? (coefficient : α) (d : Descriptor α) (fields : Nat) (input : Vector α m)
    (output : Vector α n) : Option (Vector α n) :=
  (List.range fields).foldlM
    (fun out f => diffuseField? coefficient d (f * d.points) input out) output

theorem diffuseFields?_eq_some (coefficient : α) {fields : Nat} (hm : fields * d.points ≤ m)
    (hn : fields * d.points ≤ n) (hg : 1 ≤ d.ghosts) (input : Vector α m) (output : Vector α n) :
    diffuseFields? coefficient d fields input output
      = some (diffuseFields coefficient d fields input output) := by
  refine foldlM_eq_some (fun f hf out => ?_) output
  have hend := field_end_le d.points (List.mem_range.mp hf)
  exact diffuseField?_eq_some coefficient (by omega) (by omega) hg input out

/-! ## The right-hand side -/

/-- **Diffusion succeeds and writes the rates of every field over zeros**, on buffers of the size it
is told of. -/
theorem Rhs.evaluate_diffusion (coefficient : α) {ctx : Context α}
    (h : ctx.fields * ctx.points = n) (hg : 1 ≤ ctx.grid.ghosts) (x out : Vector α n) (memory : σ) :
    ((diffusion coefficient).evaluate ctx x out memory).outcome = .done
      ∧ ((diffusion coefficient).evaluate ctx x out memory).buffer
        = diffuseFields coefficient ctx.grid ctx.fields x (Vector.replicate n 0) := by
  have hzero : out.map (fun _ => (0 : α)) = Vector.replicate n 0 := by
    ext k hk
    simp
  simp only [diffusion, Nat.ne_of_gt hg, Context.wholeFields_eq h, Nat.min_self, if_true,
    if_false, hzero, true_and]
  rfl

/-- Diffusion overwrites its output. -/
theorem Rhs.overwrites_diffusion (coefficient : α) :
    (diffusion coefficient : Rhs σ α).Overwrites := by
  intro n ctx x out out' memory memory'
  have hzero : out.map (fun _ => (0 : α)) = out'.map fun _ => 0 := by
    ext k hk
    simp
  by_cases hg : ctx.grid.ghosts = 0
  · simp [diffusion, hg]
  · simp only [diffusion, hg, if_false, hzero, implies_true, and_self]

end Fields

end MethodOfLines
