import MethodOfLines.Proofs.Butcher
import MethodOfLines.Proofs.Diffusion

/-!
# Proofs/Conservation — diffusion moves what there is, and makes nothing

Over the rationals, where nothing is rounded, the sum of a field over the interior is kept.  Along
every line through the interior the second differences cancel but for the slopes at its two ends,
and these are zero on a field that is filled (`sum_line`); so the rates of a filled field sum to
zero.  A stage adds multiples of rates, and filling the ghost points leaves the interior alone and
leaves the field filled: a quantity that is linear, zero on rates and blind to corrections goes
through a whole step unchanged (`Recursion.Conserves.result`).
-/

namespace MethodOfLines

/-! ## Sums over the interior -/

section Sums

/-- A sum over a walk of lists. -/
theorem sum_flatMap_range {β : Type} (first n : Nat) (f : Nat → List β) (F : β → Rat) :
    (((List.range' first n).flatMap f).map F).sum
      = ∑ t ∈ Finset.range n, ((f (first + t)).map F).sum := by
  rw [List.map_flatMap, List.flatMap_def, List.sum_flatten, List.range'_eq_map_range, List.map_map,
    List.map_map]
  rfl

/-- **The sum of a function over the interior**, axis by axis. -/
theorem sum_interiorBox (d : Descriptor Rat) (F : Axes Nat → Rat) :
    (d.interiorBox.map F).sum = ∑ k ∈ Finset.range d.interior.i2,
      ∑ j ∈ Finset.range d.interior.i1, ∑ i ∈ Finset.range d.interior.i0,
        F ⟨d.ghosts + i, d.ghosts + j, d.ghosts + k⟩ := by
  simp only [Descriptor.interiorBox, Axes.box, sum_flatMap_range, List.map_map]
  simp only [List.range'_eq_map_range, List.map_map]
  rfl

/-- Second differences along a line cancel, if the line ends level. -/
theorem sum_secondDifferences {n : Nat} {u : Nat → Rat} (w : Rat) (hfirst : u 0 = u 1)
    (hlast : u (n + 1) = u n) :
    ∑ t ∈ Finset.range n, (u t + -2 * u (t + 1) + u (t + 2)) * w = 0 := by
  have hterm : ∀ t ∈ Finset.range n, (u t + -2 * u (t + 1) + u (t + 2)) * w
      = (u (t + 2) - u (t + 1)) * w - (u (t + 1) - u t) * w := fun t _ => by ring
  rw [Finset.sum_congr rfl hterm, Finset.sum_range_sub fun t => (u (t + 1) - u t) * w, hfirst,
    hlast]
  ring

variable {d : Descriptor Rat} {axis : Axis} {i : Axes Nat} {t : Nat}

/-- **The points of the line through a point along an axis**, from the last ghost point before the
interior to the first behind it. -/
def Descriptor.onLine (d : Descriptor Rat) (axis : Axis) (i : Axes Nat) (t : Nat) : Axes Nat :=
  i.modify (fun _ => d.ghosts - 1 + t) axis

variable (hg : 1 ≤ d.ghosts) (hi : i ∈ d.interiorBox)

include hg hi in
theorem Descriptor.onLine_mem_box (ht : t ≤ d.interior.get axis + 1) :
    d.onLine axis i t ∈ d.box := by
  have hmem := mem_interiorBox.mp hi
  cases axis <;>
    simp only [mem_box, onLine, Axes.modify, Axes.get, dims, padded, Axes.map] at ht ⊢ <;>
    omega

include hg in
/-- The line starts with a ghost point and its nearest interior point, -/
theorem Descriptor.nearest_onLine_zero :
    d.nearest (d.onLine axis i 0) = d.nearest (d.onLine axis i 1) := by
  have hpos := d.interior_pos
  cases axis <;> simp only [nearest, onLine, Axes.modify, dims, padded, Axes.map, Axes.mk.injEq,
    and_true, true_and] <;> omega

include hg in
/-- and ends with such a pair. -/
theorem Descriptor.nearest_onLine_last :
    d.nearest (d.onLine axis i (d.interior.get axis + 1))
      = d.nearest (d.onLine axis i (d.interior.get axis)) := by
  have hpos := d.interior_pos
  cases axis <;> simp only [nearest, onLine, Axes.modify, Axes.get, dims, padded, Axes.map,
    Axes.mk.injEq, and_true, true_and] <;> omega

include hg hi in
/-- A second difference at a point of the interior, in terms of its line. -/
theorem secondDifference_onLine (ht : t < d.interior.get axis) (y : Nat → Rat) (w : Rat) :
    secondDifference y (d.pointIndex (i.modify (fun _ => d.ghosts + t) axis)) (d.strides.get axis) w
      = (y (d.pointIndex (d.onLine axis i t)) + -2 * y (d.pointIndex (d.onLine axis i (t + 1)))
        + y (d.pointIndex (d.onLine axis i (t + 2)))) * w := by
  have hmem := Descriptor.mem_interiorBox.mp hi
  have hpoint : i.modify (fun _ => d.ghosts + t) axis ∈ d.interiorBox := by
    cases axis <;> simp only [Descriptor.mem_interiorBox, Axes.modify, Axes.get] at ht ⊢ <;> omega
  have hbelow : d.ghosts + t - 1 = d.ghosts - 1 + t := by omega
  have hcentre : d.ghosts + t = d.ghosts - 1 + (t + 1) := by omega
  have habove : d.ghosts + t + 1 = d.ghosts - 1 + (t + 2) := by omega
  rw [secondDifference_pointIndex hg hpoint]
  cases axis <;>
    simp only [Descriptor.onLine, Axes.lower, Axes.upper, Axes.modify, hbelow, habove] <;>
    rw [hcentre] <;> rfl

variable {y : Nat → Rat}
  (hy : ∀ i ∈ d.box, y (d.pointIndex i) = y (d.pointIndex (d.nearest i)))

include hg hi hy in
/-- **Along a line through the interior the second differences cancel**, if every ghost point holds
what its nearest interior point holds. -/
theorem sum_line (axis : Axis) (w : Rat) :
    ∑ t ∈ Finset.range (d.interior.get axis),
      secondDifference y (d.pointIndex (i.modify (fun _ => d.ghosts + t) axis))
        (d.strides.get axis) w = 0 := by
  -- points of the line with one nearest interior point hold the same
  have hlevel : ∀ t t' : Nat, t ≤ d.interior.get axis + 1 → t' ≤ d.interior.get axis + 1 →
      d.nearest (d.onLine axis i t) = d.nearest (d.onLine axis i t') →
        y (d.pointIndex (d.onLine axis i t)) = y (d.pointIndex (d.onLine axis i t')) := by
    intro t t' ht ht' hnearest
    rw [hy _ (Descriptor.onLine_mem_box hg hi ht), hy _ (Descriptor.onLine_mem_box hg hi ht'),
      hnearest]
  rw [Finset.sum_congr rfl fun t ht => secondDifference_onLine hg hi (Finset.mem_range.mp ht) y w]
  exact sum_secondDifferences (u := fun t => y (d.pointIndex (d.onLine axis i t))) w
    (hlevel 0 1 (by omega) (by omega) (Descriptor.nearest_onLine_zero hg))
    (hlevel _ _ (by omega) (by omega) (Descriptor.nearest_onLine_last hg))

include hg hy in
/-- **Along each axis the second differences of the interior cancel.** -/
theorem sum_axis (axis : Axis) (w : Rat) :
    (d.interiorBox.map fun i => secondDifference y (d.pointIndex i) (d.strides.get axis) w).sum
      = 0 := by
  have hpos := d.interior_pos
  have hmem : ∀ {i j k : Nat}, i < d.interior.i0 → j < d.interior.i1 → k < d.interior.i2 →
      (⟨d.ghosts + i, d.ghosts + j, d.ghosts + k⟩ : Axes Nat) ∈ d.interiorBox := by
    intro i j k hi hj hk
    simp only [Descriptor.mem_interiorBox]
    omega
  rw [sum_interiorBox]
  -- the axis is summed first
  cases axis with
  | first =>
    refine Finset.sum_eq_zero fun k hk => Finset.sum_eq_zero fun j hj => ?_
    exact sum_line hg (hmem hpos.1 (Finset.mem_range.mp hj) (Finset.mem_range.mp hk)) hy .first w
  | second =>
    refine Finset.sum_eq_zero fun k hk => ?_
    rw [Finset.sum_comm]
    refine Finset.sum_eq_zero fun i hi => ?_
    exact sum_line hg (hmem (Finset.mem_range.mp hi) hpos.2.1 (Finset.mem_range.mp hk)) hy .second w
  | third =>
    rw [Finset.sum_comm]
    refine Finset.sum_eq_zero fun j hj => ?_
    rw [Finset.sum_comm]
    refine Finset.sum_eq_zero fun i hi => ?_
    exact sum_line hg (hmem (Finset.mem_range.mp hi) (Finset.mem_range.mp hj) hpos.2.2) hy .third w

include hg hy in
/-- **The rates of a filled field sum to zero.** -/
theorem sum_laplacian (coefficient : Rat) (weights : Axes Rat) :
    (d.interiorBox.map fun i =>
      coefficient * laplacian y d.strides weights (d.pointIndex i)).sum = 0 := by
  have hterm : ∀ i : Axes Nat, coefficient * laplacian y d.strides weights (d.pointIndex i)
      = coefficient * (secondDifference y (d.pointIndex i) (d.strides.get .first) weights.i0
        + secondDifference y (d.pointIndex i) (d.strides.get .second) weights.i1
        + secondDifference y (d.pointIndex i) (d.strides.get .third) weights.i2) := by
    intro i
    change coefficient * (-(0 : Rat) + _ + _ + _) = _
    rw [neg_zero, zero_add]
    rfl
  simp only [hterm, List.sum_map_mul_left, List.sum_map_add, sum_axis hg hy, add_zero, mul_zero]

end Sums

/-! ## The sum of a field -/

section FieldSum

variable {n : Nat} {d : Descriptor Rat}

/-- **The sum over the interior of the field at `offset`.** -/
def fieldSum (d : Descriptor Rat) (offset : Nat) (v : Vector Rat n) : Rat :=
  (d.interiorBox.map fun i => elementAt v (offset + d.pointIndex i)).sum

theorem interiorSum_eq (g : Grid Rat) (f : Nat) :
    interiorSum g f
      = fieldSum g.descriptor (f * g.descriptor.points) g.functions.buffers.state := by
  rw [fieldSum, List.sum_eq_foldl, List.foldl_map]
  rfl

theorem fieldSum_congr {offset : Nat} {v w : Vector Rat n}
    (h : ∀ i ∈ d.interiorBox, v[offset + d.pointIndex i]? = w[offset + d.pointIndex i]?) :
    fieldSum d offset v = fieldSum d offset w := by
  refine congrArg List.sum (List.map_congr_left fun i hi => ?_)
  rw [elementAt, h i hi, elementAt]

/-- **The sum of a field is linear.** -/
theorem fieldSum_linear (d : Descriptor Rat) (offset : Nat) {a b : Rat} {u v w : Vector Rat n}
    (h : ∀ p (hp : p < n), w[p] = a * u[p] + b * v[p]) :
    fieldSum d offset w = a * fieldSum d offset u + b * fieldSum d offset v := by
  have helement : ∀ p, elementAt w p = a * elementAt u p + b * elementAt v p := by
    intro p
    by_cases hp : p < n
    · simp only [elementAt, Vector.getElem?_eq_getElem hp, Option.getD_some, h p hp]
    · simp only [elementAt, Vector.getElem?_eq_none (Nat.le_of_not_lt hp), Option.getD_none]
      change (0 : Rat) = a * 0 + b * 0
      ring
  simp only [fieldSum, helement, List.sum_map_add, List.sum_map_mul_left]

variable {fields f : Nat} (hf : f < fields) (hn : fields * d.points ≤ n)

include hf hn in
/-- Filling the ghost points keeps the sum of a field. -/
theorem fieldSum_fillFields (v : Vector Rat n) :
    fieldSum d (f * d.points) (fillFields d fields v) = fieldSum d (f * d.points) v := by
  refine fieldSum_congr fun i hi => ?_
  rw [getElem?_fillFields hn v hf (Descriptor.mem_box_of_interior hi),
    Descriptor.nearest_of_interior hi]

include hf hn in
/-- **The rates of a filled field sum to zero.** -/
theorem fieldSum_diffuseFields (hg : 1 ≤ d.ghosts) (coefficient : Rat) {v : Vector Rat n}
    (hv : Filled d fields v) (out : Vector Rat n) :
    fieldSum d (f * d.points) (diffuseFields coefficient d fields v out) = 0 := by
  have hend := field_end_le d.points hf
  have hfilled := (fillGhostsAt_eq_self_iff (by omega)).mp (hv f hf)
  have hrates : ∀ i ∈ d.interiorBox,
      elementAt (diffuseFields coefficient d fields v out) (f * d.points + d.pointIndex i)
        = coefficient * laplacian (fun p => elementAt v (f * d.points + p)) d.strides d.weights
          (d.pointIndex i) := by
    intro i hi
    rw [elementAt, getElem?_diffuseFields coefficient hn v out hf hi, Option.getD_some]
    rfl
  rw [fieldSum, List.map_congr_left hrates]
  refine sum_laplacian hg (fun i hi => ?_) coefficient d.weights
  rw [elementAt, hfilled i hi, elementAt]

end FieldSum

/-! ## What a step conserves -/

namespace Recursion

variable {n : Nat}

/-- **A quantity that a step conserves**, while the values have some property: it is linear, it is
zero on the rates of such values, and corrections keep it and give values the property. -/
structure Conserves (r : Recursion Rat n) (quantity : Vector Rat n → Rat)
    (property : Vector Rat n → Prop) : Prop where
  linear : ∀ {a b : Rat} {u v w : Vector Rat n},
    (∀ p (hp : p < n), w[p] = a * u[p] + b * v[p]) →
      quantity w = a * quantity u + b * quantity v
  start : property r.start
  rate : ∀ i v, property v → quantity (r.rate i v) = 0
  settle : ∀ i v, property (r.settle i v) ∧ quantity (r.settle i v) = quantity v

namespace Conserves

variable {r : Recursion Rat n} {quantity : Vector Rat n → Rat} {property : Vector Rat n → Prop}
  (h : r.Conserves quantity property)

include h

theorem fmaEach_eq (a : Rat) (k y : Vector Rat n) :
    quantity (fmaEach a k y) = a * quantity k + quantity y := by
  rw [h.linear (a := a) (b := 1) (u := k) (v := y) fun p hp => by rw [getElem_fmaEach, one_mul],
    one_mul]

/-- The argument of every stage has the property. -/
theorem argument (i : Nat) : property (r.argument i) := by
  cases i with
  | zero => exact h.start
  | succ i => exact (h.settle i _).1

theorem slope (i : Nat) : quantity (r.slope i) = 0 := h.rate i _ (h.argument i)

/-- The slopes add nothing. -/
theorem partialSum (i : Nat) : quantity (r.partialSum i) = 0 := by
  induction i with
  | zero =>
    have hscale := h.linear (a := r.weight 0) (b := 0) (u := r.slope 0) (v := r.slope 0)
      (w := r.partialSum 0) fun p hp => by
        rw [zero_mul, add_zero, Recursion.partialSum, Vector.getElem_map]
    rw [hscale, h.slope, mul_zero, zero_mul, add_zero]
  | succ i ih =>
    rw [Recursion.partialSum, h.fmaEach_eq, h.slope, ih, mul_zero, add_zero]

/-- **The state after a step has the property, and as much of the quantity as at the start.** -/
theorem result (last : Nat) :
    property (r.result last) ∧ quantity (r.result last) = quantity r.start := by
  cases last with
  | zero =>
    obtain ⟨hproperty, hkept⟩ := h.settle 0 (fmaEach (r.weight 0) (r.slope 0) r.start)
    refine ⟨hproperty, hkept.trans ?_⟩
    rw [h.fmaEach_eq, h.slope, mul_zero, zero_add]
  | succ i =>
    obtain ⟨hproperty, hkept⟩ := h.settle (i + 1) (Vector.zipWith (· + ·) (r.partialSum i)
      (fmaEach (r.weight (i + 1)) (r.slope (i + 1)) r.start))
    have hsum := h.linear (a := 1) (b := 1) (u := r.partialSum i)
      (v := fmaEach (r.weight (i + 1)) (r.slope (i + 1)) r.start)
      (w := Vector.zipWith (· + ·) (r.partialSum i)
        (fmaEach (r.weight (i + 1)) (r.slope (i + 1)) r.start)) fun p hp => by
          rw [one_mul, one_mul, Vector.getElem_zipWith]
    refine ⟨hproperty, hkept.trans ?_⟩
    rw [hsum, h.partialSum, h.fmaEach_eq, h.slope, mul_zero, mul_zero, zero_add, zero_add, one_mul]

end Conserves

end Recursion

/-! ## A run of diffusion -/

variable {σ : Type}

/-- **What is kept of a grid**: its shape, the number of its fields, the sum of every field over the
interior, and that its fields are filled. -/
structure Grid.Conserves (g g' : Grid Rat) : Prop where
  descriptor : g'.descriptor = g.descriptor
  fields : g'.functions.fields = g.functions.fields
  filled : Filled g'.descriptor g'.functions.fields g'.functions.buffers.state
  sum : ∀ f < g.functions.fields, interiorSum g' f = interiorSum g f

theorem Grid.Conserves.trans {g g' g'' : Grid Rat} (h : g.Conserves g') (h' : g'.Conserves g'') :
    g.Conserves g'' where
  descriptor := h'.descriptor.trans h.descriptor
  fields := h'.fields.trans h.fields
  filled := h'.filled
  sum f hf := (h'.sum f (h.fields ▸ hf)).trans (h.sum f hf)

namespace Stepper

/-- **A grid that a stepper can diffuse without a loss**: it has ghost points, its boundary has zero
gradient, and its fields are filled. -/
structure Seals (s : Stepper σ Rat) (g : Grid Rat) : Prop where
  ghosts : 1 ≤ g.descriptor.ghosts
  condition : s.boundaryFor g = .extrapolation
  filled : Filled g.descriptor g.functions.fields g.functions.buffers.state

theorem Seals.twin {s s' : Stepper σ Rat} (hs : s.Twin s') {g g' : Grid Rat} (hg : g.Conserves g')
    (h : s.Seals g) : s'.Seals g' := by
  obtain ⟨phase, metrics, rfl⟩ := hs
  refine ⟨hg.descriptor ▸ h.ghosts, ?_, hg.filled⟩
  rw [boundaryFor, hg.descriptor]
  exact h.condition

variable {s : Stepper σ Rat} {coefficient : Rat} (h : s.operators.Diffuse coefficient)
  {clock : Clock Rat} {grids : List (Grid Rat)} {memory : σ}

include h

/-- **The recursion of a filled grid conserves the sum of every field.** -/
theorem conserves_recursion {g : Grid Rat} (hg : s.Seals g)
    (hsize : g.functions.points = g.descriptor.points) (clock : Clock Rat) (memory : σ) {f : Nat}
    (hf : f < g.functions.fields) :
    (s.recursion clock memory g).Conserves (fieldSum g.descriptor (f * g.descriptor.points))
      (Filled g.descriptor g.functions.fields) := by
  have hn : g.functions.fields * g.descriptor.points ≤ g.functions.points * g.functions.fields := by
    rw [hsize, Nat.mul_comm]
  refine ⟨fieldSum_linear _ _, hg.filled, fun i v hv => ?_, fun i v => ?_⟩
  · rw [rate_diffusion h hg.ghosts hsize hg.condition]
    exact fieldSum_diffuseFields hf hn hg.ghosts coefficient hv _
  · rw [settle_diffusion h hsize hg.condition]
    exact ⟨filled_fillFields hn v, fieldSum_fillFields hf hn v⟩

/-- Over the rationals diffusion cannot fail on grids with ghost points whose buffers fit and that
can be launched. -/
theorem succeeds_of_seals (hg : ∀ g ∈ grids, s.Seals g)
    (hsize : ∀ g ∈ grids, g.functions.points = g.descriptor.points)
    (hl : ∀ g ∈ grids, ¬ s.Refuses g) : s.Succeeds grids where
  succeed g hmem := h.succeedOn (hg g hmem).ghosts (hsize g hmem) fun _ _ => rfl
  points := hsize
  launch := hl

/-- **A step of diffusion that succeeds conserves every field of every grid**, under every
schedule. -/
theorem Ends.conserves {a : Advance σ Rat} (ha : s.Ends clock grids memory a)
    (hg : ∀ g ∈ grids, s.Seals g) {report : Report Rat} (hok : a.result = .ok report) :
    List.Forall₂ Grid.Conserves grids a.grids := by
  obtain ⟨hp, hl⟩ := ha.not_refuses hok
  have hsize := ha.points_eq hok
  obtain ⟨p, _, hrun, hgrids, -⟩ :=
    ha.of_succeeds hp h.functional (succeeds_of_seals h hg hsize hl)
  rw [hgrids, grids_of_run_ok h.overwrites (fun _ _ _ => h.functional.boundary) memory memory hrun]
  refine List.forall₂_map_right_iff.mpr (List.forall₂_same.mpr fun g hmem => ?_)
  have hkept : ∀ f < g.functions.fields, _ := fun f hf =>
    (conserves_recursion h (hg g hmem) (hsize g hmem) clock memory hf).result
      (s.plan.tableau.stages - 1)
  have hstate := (s.recursion clock memory g).state_finished g.functions.buffers
    (s.plan.tableau.stages - 1)
  refine ⟨rfl, rfl, ?_, fun f hf => ?_⟩
  · exact hstate ▸ (hkept 0 g.functions.fields_pos).1
  · rw [interiorSum_eq, interiorSum_eq]
    exact hstate ▸ (hkept f hf).2

end Stepper

namespace Run

/-- **A run of diffusion whose steps succeed conserves every field of every grid.** -/
theorem Continues.conserves {r : Run σ Rat} {l : List (Advance σ Rat)} (hl : r.Continues l)
    {coefficient : Rat} :
    r.stepper.operators.Diffuse coefficient → (∀ g ∈ r.grids, r.stepper.Seals g) →
      (∀ a ∈ l, ∃ report, a.result = .ok report) →
        ∀ a ∈ l, List.Forall₂ Grid.Conserves r.grids a.grids := by
  induction hl with
  | nil r => exact fun _ _ _ => List.forall_mem_nil _
  | @cons r a l ha _ ih =>
    intro h hg hok
    obtain ⟨⟨report, hreport⟩, hok⟩ := List.forall_mem_cons.mp hok
    have hstep := ha.conserves h hg hreport
    have hlater := ih (ha.operators_eq ▸ h)
      (List.forall_mem_of_forall₂ hstep (Stepper.Seals.twin (ha.twin_of_ok hreport)) hg) hok
    exact List.forall_mem_cons.mpr ⟨hstep, fun b hb =>
      List.forall₂_trans hstep Grid.Conserves.trans (hlater b hb)⟩

/-- **Diffusion conserves the sum of every field over the interior, exactly.**  Take any stepper of
diffusion with zero gradient at the boundary, over the rationals, and grids with ghost points whose
fields are filled.  After any number of steps that succeed, under any schedules, every field of
every grid has the sum it had and is filled again.  The steps do all succeed if the stepper is not
poisoned, the buffers fit the shapes of their grids and no launch is refused. -/
theorem conserves_interiorSum (s : Stepper σ Rat) {coefficient : Rat}
    (hrhs : s.operators.rhs = .diffusion coefficient)
    (hboundary : s.operators.boundary = .ghostCopy)
    (clock : Clock Rat) (grids : List (Grid Rat)) (memory : σ)
    (hg : ∀ g ∈ grids, 1 ≤ g.descriptor.ghosts ∧ s.boundaryFor g = .extrapolation
      ∧ ∀ f < g.functions.fields, fillGhostsAt g.descriptor (f * g.descriptor.points)
        g.functions.buffers.state = g.functions.buffers.state)
    {l : List (Advance σ Rat)} (hl : Run.Continues ⟨s, clock, grids, memory⟩ l) :
    ((∀ a ∈ l, ∃ report, a.result = .ok report) → ∀ a ∈ l,
        List.Forall₂ (fun g g' : Grid Rat => g'.descriptor = g.descriptor
          ∧ g'.functions.fields = g.functions.fields
          ∧ ∀ f < g.functions.fields, interiorSum g' f = interiorSum g f
            ∧ fillGhostsAt g'.descriptor (f * g'.descriptor.points) g'.functions.buffers.state
              = g'.functions.buffers.state) grids a.grids)
      ∧ (s.poisoned = false → (∀ g ∈ grids, g.functions.points = g.descriptor.points) →
        (∀ g ∈ grids, ¬ s.Refuses g) → ∀ a ∈ l, ∃ report, a.result = .ok report) := by
  have h : s.operators.Diffuse coefficient := ⟨hrhs, hboundary⟩
  have hseals : ∀ g ∈ grids, s.Seals g := fun g hmem =>
    ⟨(hg g hmem).1, (hg g hmem).2.1, (hg g hmem).2.2⟩
  refine ⟨fun hok a ha => ?_, fun hp hsize hlaunch a ha => ?_⟩
  · refine (hl.conserves h hseals hok a ha).imp fun g g' hkept => ?_
    exact ⟨hkept.descriptor, hkept.fields, fun f hf =>
      ⟨hkept.sum f hf, hkept.filled f (hkept.fields ▸ hf)⟩⟩
  · have hs := Stepper.succeeds_of_seals h hseals hsize hlaunch
    obtain ⟨⟨report, hreport, -⟩, -⟩ := hl.of_succeeds hp h.functional hs a ha
    exact ⟨report, hreport⟩

end Run

/-- Two points in a shell of ghost points, with `x` and `y` in the first field and their doubles in
the second, and sevens in the buffers beside the state. -/
def Grid.slab (id : GridId) (x y : Rat) : Grid Rat where
  descriptor :=
    { id
      interior := ⟨2, 1, 1⟩
      ghosts := 1
      spacing := ⟨1 / 2, 2, 3⟩
      boundary := .extrapolation
      interior_pos := Axes.row_pos
      points_lt := Nat.le_of_ble_eq_true rfl }
  functions :=
    { points := 36
      fields := 2
      buffers := { Buffers.fill 72 7 with
        state := Vector.ofFn fun p =>
          (if p % 4 < 2 then x else y) * (if p < 36 then 1 else 2) }
      fields_pos := Nat.two_pos
      size_lt := Nat.le_of_ble_eq_true rfl }

/-- Two steps of Heun's method of third order on a grid with a field of sum 5 and one of sum 10.
The values at the points change, the sums do not. -/
theorem Run.conserves_interiorSum_slab :
    let s : Stepper Unit Rat := .heunThird (.diffusion (1 / 3)) .ghostCopy
    let grids := [Grid.slab 3 1 4]
    let a := s.step ⟨0, 1 / 8, 0⟩ grids ()
    let b := a.stepper.step a.clock a.grids ()
    (a.grids.map fun g => elementAt g.functions.buffers.state 17) = [77 / 54]
      ∧ List.Forall₂ (fun g g' : Grid Rat => g'.descriptor = g.descriptor
          ∧ g'.functions.fields = g.functions.fields
          ∧ ∀ f < g.functions.fields, interiorSum g' f = interiorSum g f
            ∧ fillGhostsAt g'.descriptor (f * g'.descriptor.points) g'.functions.buffers.state
              = g'.functions.buffers.state) grids b.grids := by
  intro s grids a b
  have hgrids : ∀ g ∈ grids, 1 ≤ g.descriptor.ghosts ∧ s.boundaryFor g = .extrapolation
      ∧ ∀ f < g.functions.fields, fillGhostsAt g.descriptor (f * g.descriptor.points)
        g.functions.buffers.state = g.functions.buffers.state := by
    decide +kernel
  have hl : Run.Continues ⟨s, ⟨0, 1 / 8, 0⟩, grids, ()⟩ [a, b] :=
    .cons (s.ends_step ..) (.cons (Stepper.ends_step ..) (.nil _))
  have hlaunch : ∀ g ∈ grids, ¬ s.Refuses g := by
    have hforGrid : ∀ g ∈ grids,
        (Launch.forGrid g.descriptor g.functions.fields s.blockSize).isOk = true := by
      decide +kernel
    rintro g hg ⟨fault, hfault⟩
    cases (congrArg Except.isOk hfault).symm.trans (hforGrid g hg)
  have hsize : ∀ g ∈ grids, g.functions.points = g.descriptor.points := by
    decide +kernel
  have hvalues : (a.grids.map fun g => elementAt g.functions.buffers.state 17) = [77 / 54] := by
    decide +kernel
  obtain ⟨hkept, hok⟩ := conserves_interiorSum s rfl rfl ⟨0, 1 / 8, 0⟩ grids () hgrids hl
  exact ⟨hvalues, hkept (hok rfl hsize hlaunch) b (by simp)⟩

end MethodOfLines
