import MethodOfLines.Proofs.Conservation

/-!
# Proofs/Fields — ghost points and rates, field by field

The elements of a buffer are the points of its fields, each of one field and one point
(`Descriptor.element_inj`).  `fillGhosts_copies_clamped` gives the filling of ghost points as a
function of the original values, with the clamping of coordinates spelled out, and
`Rhs.diffusion_rates` does the same for the rates of diffusion.  Both come back to single fields:
copying into the ghost points of a buffer fills each field as if it stood alone, and the rates of a
field follow from that field.
-/

namespace MethodOfLines

/-! ## Coordinates and elements -/

/-- A number moved into the range from `low` to `high`. -/
def clamp (low high j : Nat) : Nat :=
  if j < low then low else if high < j then high else j

namespace Descriptor

variable {α : Type} {d : Descriptor α}

/-- Coordinates moved into the interior, axis by axis. -/
def clamped (d : Descriptor α) (i : Axes Nat) : Axes Nat :=
  ⟨clamp d.ghosts (d.dims.i0 - d.ghosts - 1) i.i0, clamp d.ghosts (d.dims.i1 - d.ghosts - 1) i.i1,
    clamp d.ghosts (d.dims.i2 - d.ghosts - 1) i.i2⟩

theorem ghosts_lt_dims (d : Descriptor α) (axis : Axis) :
    d.ghosts + d.ghosts < d.dims.get axis := by
  obtain ⟨h0, h1, h2⟩ := d.interior_pos
  cases axis <;> simp only [Axes.get, dims, padded, Axes.map] <;> omega

theorem clamp_eq {low high : Nat} (h : low ≤ high) (j : Nat) :
    clamp low high j = max low (min j high) := by
  unfold clamp
  split
  · omega
  · split <;> omega

/-- **The nearest interior point is found by clamping.** -/
theorem nearest_eq_clamped (d : Descriptor α) (i : Axes Nat) : d.nearest i = d.clamped i := by
  have h0 := d.ghosts_lt_dims .first
  have h1 := d.ghosts_lt_dims .second
  have h2 := d.ghosts_lt_dims .third
  simp only [Axes.get] at h0 h1 h2
  rw [clamped, clamp_eq (by omega), clamp_eq (by omega), clamp_eq (by omega), nearest]

/-- **An element belongs to one point of one field.** -/
theorem element_inj {f f' : Nat} {i i' : Axes Nat} (hi : i ∈ d.box) (hi' : i' ∈ d.box) :
    f * d.points + d.pointIndex i = f' * d.points + d.pointIndex i' ↔ f = f' ∧ i = i' := by
  refine ⟨fun h => ?_, fun h => by rw [h.1, h.2]⟩
  obtain ⟨hmod, hdiv⟩ := digit_mod_div f (pointIndex_lt hi)
  obtain ⟨hmod', hdiv'⟩ := digit_mod_div f' (pointIndex_lt hi')
  have heq : d.pointIndex i + d.points * f = d.pointIndex i' + d.points * f' := by
    rw [Nat.mul_comm _ f, Nat.mul_comm _ f']
    omega
  exact ⟨by rw [← hdiv, heq, hdiv'], (pointIndex_inj hi hi').mp (by rw [← hmod, heq, hmod'])⟩

end Descriptor

/-! ## One field of a buffer -/

section Filling

variable {σ α β : Type} {n : Nat} {d : Descriptor α}

/-- The values of the field that starts at `offset`. -/
def fieldAt (d : Descriptor α) (offset : Nat) (v : Vector β n) (h : offset + d.points ≤ n) :
    Vector β d.points :=
  .ofFn fun p => v[offset + p]

theorem getElem?_fieldAt {offset : Nat} (v : Vector β n) (h : offset + d.points ≤ n) {p : Nat}
    (hp : p < d.points) : (fieldAt d offset v h)[p]? = v[offset + p]? := by
  have hlt : offset + p < n := by omega
  rw [Vector.getElem?_eq_getElem hp, Vector.getElem?_eq_getElem hlt, fieldAt, Vector.getElem_ofFn]

/-- Vectors with one element per point are equal if they are at every point. -/
theorem ext_points {v w : Vector β d.points}
    (h : ∀ i ∈ d.box, v[d.pointIndex i]? = w[d.pointIndex i]?) : v = w := by
  refine Vector.ext fun p hp => ?_
  obtain ⟨hmem, heq⟩ := Descriptor.pointIndex_coordinates hp
  have hpoint := h _ hmem
  rwa [heq, Vector.getElem?_eq_getElem hp, Vector.getElem?_eq_getElem hp, Option.some_inj] at hpoint

/-- **A point of a single field takes what its nearest interior point held.** -/
theorem getElem?_fillGhosts (v : Vector β d.points) {i : Axes Nat} (hi : i ∈ d.box) :
    (fillGhosts d v)[d.pointIndex i]? = v[d.pointIndex (d.nearest i)]? := by
  have h : (fillGhostsAt d 0 v)[0 + d.pointIndex i]? = v[0 + d.pointIndex (d.nearest i)]? :=
    getElem?_fillGhostsAt (Nat.zero_add _).le v hi
  rwa [Nat.zero_add, Nat.zero_add] at h

/-- **Filling looks at the interior alone.** -/
theorem fillGhosts_congr {v w : Vector β d.points}
    (h : ∀ i ∈ d.interiorBox, v[d.pointIndex i]? = w[d.pointIndex i]?) :
    fillGhosts d v = fillGhosts d w := by
  refine ext_points fun i hi => ?_
  rw [getElem?_fillGhosts v hi, getElem?_fillGhosts w hi, h _ (d.nearest_mem i)]

/-- **All fields filled is each field filled by itself.** -/
theorem fieldAt_fillFields {fields f : Nat} (h : fields * d.points ≤ n) (hf : f < fields)
    (v : Vector β n) (hend : f * d.points + d.points ≤ n) :
    fieldAt d (f * d.points) (fillFields d fields v) hend
      = fillGhosts d (fieldAt d (f * d.points) v hend) := by
  refine ext_points fun i hi => ?_
  have hnearest := Descriptor.mem_box_of_interior (d.nearest_mem i)
  rw [getElem?_fillGhosts _ hi, getElem?_fieldAt _ _ (Descriptor.pointIndex_lt hi),
    getElem?_fieldAt _ _ (Descriptor.pointIndex_lt hnearest), getElem?_fillFields h v hf hi]

variable [Scalar α]

/-- The sum of a field over the interior depends on its values there. -/
theorem interiorSum_setBuffer {g : Grid α} {f : Nat}
    {v : Vector α (g.functions.points * g.functions.fields)}
    (h : ∀ i ∈ g.descriptor.interiorBox,
      v[f * g.descriptor.points + g.descriptor.pointIndex i]?
        = (g.functions.buffer .state)[f * g.descriptor.points + g.descriptor.pointIndex i]?) :
    interiorSum (g.setBuffer .state v) f = interiorSum g f := by
  refine List.foldl_ext _ _ _ fun sum i hi => ?_
  have hv : (g.setBuffer .state v).functions.buffer .state = v :=
    Buffers.get_set_self g.functions.buffers .state v
  rw [elementAt, elementAt, hv]
  exact congrArg (fun x => sum + x.getD 0) (h i hi)

/-- **Filling in place is filling from the original.**  Between the ghost layers of an axis there is
always something to clamp to, and no access is out of range.  Every point of a field ends with what
the field held at its clamped coordinates; so the interior stays, filling twice is filling once, and
what is filled in follows from the interior.  Copying into the ghost points of a buffer does this to
each of its fields alone, and leaves their sums over the interior as they were. -/
theorem fillGhosts_copies_clamped (d : Descriptor α) (v : Vector β d.points) :
    (∀ axis, d.ghosts + d.ghosts < d.dims.get axis
      ∧ d.ghosts ≤ d.dims.get axis - d.ghosts - 1)
    ∧ fillGhostsAt? d 0 v = some (fillGhosts d v)
    ∧ (∀ i : Axes Nat, i.i0 < d.dims.i0 → i.i1 < d.dims.i1 → i.i2 < d.dims.i2 →
        d.pointIndex i < d.points ∧ d.pointIndex (d.clamped i) < d.points
          ∧ (fillGhosts d v)[d.pointIndex i]? = v[d.pointIndex (d.clamped i)]?)
    ∧ (∀ i ∈ d.interiorBox, (fillGhosts d v)[d.pointIndex i]? = v[d.pointIndex i]?)
    ∧ fillGhosts d (fillGhosts d v) = fillGhosts d v
    ∧ (∀ w : Vector β d.points,
        (∀ i ∈ d.interiorBox, v[d.pointIndex i]? = w[d.pointIndex i]?) →
          fillGhosts d v = fillGhosts d w)
    ∧ ∀ (ctx : Context α) (memory : σ), ctx.grid = d →
        (∀ {n : Nat} (u : Vector α n), ctx.fields * d.points = n →
          (Enforcer.ghostCopy.apply ctx u memory).outcome = .done
            ∧ fillFields? d ctx.fields u = some (Enforcer.ghostCopy.apply ctx u memory).buffer
            ∧ ∀ f < ctx.fields, ∀ h : f * d.points + d.points ≤ n,
                fieldAt d (f * d.points) (Enforcer.ghostCopy.apply ctx u memory).buffer h
                  = fillGhosts d (fieldAt d (f * d.points) u h))
        ∧ ∀ g : Grid α, g.descriptor = d → g.functions.points = d.points →
            ctx.fields = g.functions.fields → ∀ f < ctx.fields,
              interiorSum (g.setBuffer .state
                (Enforcer.ghostCopy.apply ctx (g.functions.buffer .state) memory).buffer) f
              = interiorSum g f := by
  have hwhole : 0 + d.points ≤ d.points := (Nat.zero_add _).le
  refine ⟨fun axis => ?_, fillGhostsAt?_eq_some hwhole v, fun i h0 h1 h2 => ?_, fun i hi => ?_,
    fillGhostsAt_fillGhostsAt hwhole v, fun w => fillGhosts_congr, ?_⟩
  · have hlt := d.ghosts_lt_dims axis
    exact ⟨hlt, by omega⟩
  · have hi : i ∈ d.box := Descriptor.mem_box.mpr ⟨h0, h1, h2⟩
    rw [← d.nearest_eq_clamped]
    exact ⟨Descriptor.pointIndex_lt hi,
      Descriptor.pointIndex_lt (Descriptor.mem_box_of_interior (d.nearest_mem i)),
      getElem?_fillGhosts v hi⟩
  · rw [getElem?_fillGhosts v (Descriptor.mem_box_of_interior hi),
      Descriptor.nearest_of_interior hi]
  · rintro ctx memory rfl
    refine ⟨fun u hn => ?_, fun g hd hpoints hfields f hf => ?_⟩
    · obtain ⟨hdone, hbuffer⟩ := Enforcer.apply_ghostCopy hn u memory
      refine ⟨hdone, hbuffer ▸ fillFields?_eq_some hn.le u, fun f hf hend => ?_⟩
      rw [hbuffer]
      exact fieldAt_fillFields hn.le hf u hend
    · have hn : ctx.fields * ctx.points = g.functions.points * g.functions.fields := by
        rw [hfields, hpoints, Nat.mul_comm, Context.points]
      obtain ⟨-, hbuffer⟩ := Enforcer.apply_ghostCopy hn (g.functions.buffer .state) memory
      refine interiorSum_setBuffer fun i hi => ?_
      rw [hbuffer]
      rw [hd] at hi ⊢
      exact (getElem?_fillFields hn.le _ hf (Descriptor.mem_box_of_interior hi)).trans
        (by rw [Descriptor.nearest_of_interior hi])

end Filling

/-- A field that holds the numbers of its points, on two points in a shell of ghost points: two
opposite corners take the numbers of the two interior points.  The sums 5 and 10 of a grid of this
shape stay. -/
theorem fillGhosts_copies_clamped_slab :
    (fillGhosts (Grid.slab 3 1 4).descriptor (Vector.ofFn fun p : Fin 36 => p.val))[0]? = some 17
      ∧ (fillGhosts (Grid.slab 3 1 4).descriptor (Vector.ofFn fun p : Fin 36 => p.val))[35]?
        = some 18
      ∧ (List.range 2).map (interiorSum ((Grid.slab 3 1 4).setBuffer .state
          (Enforcer.ghostCopy.apply ⟨(Grid.slab 3 1 4).descriptor, 0, 1, 1, 0, 2⟩
            ((Grid.slab 3 1 4).functions.buffer .state) ()).buffer)) = [5, 10] := by
  obtain ⟨-, -, hpoint, -, -, -, hcopy⟩ := fillGhosts_copies_clamped (σ := Unit)
    (Grid.slab 3 1 4).descriptor (Vector.ofFn fun p : Fin 36 => p.val)
  have hsum := (hcopy ⟨(Grid.slab 3 1 4).descriptor, 0, 1, 1, 0, 2⟩ () rfl).2 (Grid.slab 3 1 4) rfl
    (by decide +kernel) rfl
  refine ⟨(hpoint ⟨0, 0, 0⟩ (by decide) (by decide) (by decide)).2.2.trans (by decide +kernel),
    (hpoint ⟨3, 2, 2⟩ (by decide) (by decide) (by decide)).2.2.trans (by decide +kernel), ?_⟩
  rw [List.map_congr_left fun f hf => hsum f (List.mem_range.mp hf)]
  decide +kernel

/-! ## Rates -/

section Rates

variable {σ α : Type} [Scalar α] {m n : Nat} {d : Descriptor α} {i : Axes Nat}

/-- The second difference along an axis between the neighbours of a point. -/
def differenceAlong (d : Descriptor α) (y : Axes Nat → α) (i : Axes Nat) (axis : Axis) : α :=
  (y (i.lower axis) + (-((2 : Nat) : α)) * y i + y (i.upper axis))
    * (1 / (d.spacing.get axis * d.spacing.get axis))

/-- **The rate of an interior point in terms of the values of its field.** -/
theorem rateAt_eq (coefficient : α) {offset : Nat} {x : Vector α m} {y : Axes Nat → α}
    (hg : 1 ≤ d.ghosts) (hy : ∀ j ∈ d.box, x[offset + d.pointIndex j]? = some (y j))
    (hi : i ∈ d.interiorBox) :
    rateAt coefficient d offset x (d.pointIndex i)
      = coefficient * (-(0 : α) + differenceAlong d y i .first + differenceAlong d y i .second
        + differenceAlong d y i .third) := by
  have hread : ∀ j ∈ d.box, elementAt x (offset + d.pointIndex j) = y j := fun j hj => by
    rw [elementAt, hy j hj, Option.getD_some]
  have haxis : ∀ axis, secondDifference (fun p => elementAt x (offset + p)) (d.pointIndex i)
      (d.strides.get axis) (d.weights.get axis) = differenceAlong d y i axis := by
    intro axis
    obtain ⟨hlower, hupper⟩ := Descriptor.neighbours_mem hg hi axis
    have hweight : d.weights.get axis = 1 / (d.spacing.get axis * d.spacing.get axis) := by
      cases axis <;> rfl
    rw [secondDifference_pointIndex hg hi, hread _ hlower, hread _ hupper,
      hread _ (Descriptor.mem_box_of_interior hi), hweight, differenceAlong]
  rw [← haxis .first, ← haxis .second, ← haxis .third]
  rfl

/-- **The rates of the fields leave the ghost points alone.** -/
theorem getElem?_diffuseFields_of_ghost (coefficient : α) (fields : Nat) (x : Vector α m)
    (out : Vector α n) (f : Nat) (hi : i ∈ d.box) (hghost : i ∉ d.interiorBox) :
    (diffuseFields coefficient d fields x out)[f * d.points + d.pointIndex i]?
      = out[f * d.points + d.pointIndex i]? := by
  induction fields with
  | zero => rfl
  | succ fields ih =>
    rw [diffuseFields_succ, getElem?_diffuseField_of_ne coefficient fun j hj heq => ?_, ih]
    have hsame := (Descriptor.element_inj (Descriptor.mem_box_of_interior hj) hi).mp heq
    exact hghost (hsame.2 ▸ hj)

/-- **The rates of a field follow from that field.** -/
theorem fieldAt_diffuseFields_congr (coefficient : α) {fields f : Nat} (hg : 1 ≤ d.ghosts)
    (hn : fields * d.points ≤ n) (hf : f < fields) {x x' : Vector α m} {out : Vector α n}
    (hm : f * d.points + d.points ≤ m) (hend : f * d.points + d.points ≤ n)
    (h : fieldAt d (f * d.points) x' hm = fieldAt d (f * d.points) x hm) :
    fieldAt d (f * d.points) (diffuseFields coefficient d fields x' out) hend
      = fieldAt d (f * d.points) (diffuseFields coefficient d fields x out) hend := by
  have hsame : ∀ j ∈ d.box, x'[f * d.points + d.pointIndex j]?
      = some (elementAt x (f * d.points + d.pointIndex j)) := by
    intro j hj
    have hlt := Descriptor.pointIndex_lt hj
    rw [← getElem?_point hm x hj, ← getElem?_fieldAt x hm hlt, ← h, getElem?_fieldAt x' hm hlt]
  refine ext_points fun i hi => ?_
  have hlt := Descriptor.pointIndex_lt hi
  rw [getElem?_fieldAt _ _ hlt, getElem?_fieldAt _ _ hlt]
  by_cases hint : i ∈ d.interiorBox
  · rw [getElem?_diffuseFields coefficient hn x' out hf hint,
      getElem?_diffuseFields coefficient hn x out hf hint, rateAt_eq coefficient hg hsame hint,
      rateAt_eq coefficient hg (fun j hj => getElem?_point hm x hj) hint]
  · rw [getElem?_diffuseFields_of_ghost coefficient fields x' out f hi hint,
      getElem?_diffuseFields_of_ghost coefficient fields x out f hi hint]

/-- **What diffusion makes of its input.**  Without ghost points it reports an error and leaves the
output as it was.  With them it succeeds, every neighbour it asks for has a number and every access
is in range, and the rates are the same whatever the output held: in each field zero at the ghost
points, and at an interior point the coefficient times the sum, from a negative zero, of the second
differences between its neighbours along the three axes.  The rates of a field follow from that
field. -/
theorem Rhs.diffusion_rates (coefficient : α) (ctx : Context α) (hn : ctx.fields * ctx.points = n)
    (x : Vector α n) :
    (ctx.grid.ghosts = 0 → ∀ (out : Vector α n) (memory : σ),
      ((diffusion coefficient).evaluate ctx x out memory).outcome
          = .failed (.executionFailed "diffusion stencil needs a ghost zone")
        ∧ ((diffusion coefficient).evaluate ctx x out memory).buffer = out)
    ∧ (1 ≤ ctx.grid.ghosts → ∃ rates : Vector α n,
      diffuseFields? coefficient ctx.grid ctx.fields x (Vector.replicate n 0) = some rates
      ∧ (∀ (out : Vector α n) (memory : σ),
          ((diffusion coefficient).evaluate ctx x out memory).outcome = .done
            ∧ ((diffusion coefficient).evaluate ctx x out memory).buffer = rates)
      ∧ ∀ f < ctx.fields,
          (∃ y : Axes Nat → α,
            (∀ j ∈ ctx.grid.box, x[f * ctx.points + ctx.grid.pointIndex j]? = some (y j))
            ∧ (∀ i ∈ ctx.grid.box, i ∉ ctx.grid.interiorBox →
                rates[f * ctx.points + ctx.grid.pointIndex i]? = some 0)
            ∧ ∀ i ∈ ctx.grid.interiorBox, rates[f * ctx.points + ctx.grid.pointIndex i]?
                = some (coefficient * (-(0 : α) + differenceAlong ctx.grid y i .first
                  + differenceAlong ctx.grid y i .second + differenceAlong ctx.grid y i .third)))
          ∧ ∀ (x' out : Vector α n) (memory : σ) (h : f * ctx.grid.points + ctx.grid.points ≤ n),
              fieldAt ctx.grid (f * ctx.grid.points) x' h
                = fieldAt ctx.grid (f * ctx.grid.points) x h →
              fieldAt ctx.grid (f * ctx.grid.points)
                  ((diffusion coefficient).evaluate ctx x' out memory).buffer h
                = fieldAt ctx.grid (f * ctx.grid.points) rates h) := by
  refine ⟨fun hg out memory => ?_, fun hg => ?_⟩
  · simp only [diffusion, hg, if_true, and_self]
  · refine ⟨_, diffuseFields?_eq_some coefficient hn.le hn.le hg x _,
      fun out memory => evaluate_diffusion coefficient hn hg x out memory, fun f hf => ⟨?_, ?_⟩⟩
    · have hend : f * ctx.grid.points + ctx.grid.points ≤ n :=
        (field_end_le ctx.grid.points hf).trans hn.le
      have hread := fun j hj => getElem?_point (i := j) hend x hj
      refine ⟨_, hread, fun i hi hghost => ?_, fun i hi => ?_⟩
      · have hlt := Descriptor.pointIndex_lt hi
        rw [Context.points, getElem?_diffuseFields_of_ghost coefficient _ x _ f hi hghost,
          Vector.getElem?_eq_getElem (by omega), Vector.getElem_replicate]
      · rw [Context.points, getElem?_diffuseFields coefficient hn.le x _ hf hi,
          rateAt_eq coefficient hg hread hi]
    · intro x' out memory hend hsame
      rw [(evaluate_diffusion coefficient hn hg x' out memory).2]
      exact fieldAt_diffuseFields_congr coefficient hg hn.le hf hend hend hsame

end Rates

/-- The rates of a grid of two fields, whatever the output held: zero in a corner, and
`1 / 3 * (1 - 2 + 4) * 4` at the first interior point, twice that in the second field. -/
theorem Rhs.diffusion_rates_slab : 2 * (Grid.slab 3 1 4).descriptor.points = 72
    ∧ ∃ rates : Vector Rat 72,
      (∀ (out : Vector Rat 72) (memory : Unit),
        ((diffusion (1 / 3)).evaluate ⟨(Grid.slab 3 1 4).descriptor, 0, 1, 1, 0, 2⟩
            (Grid.slab 3 1 4).functions.buffers.state out memory).outcome = .done
          ∧ ((diffusion (1 / 3)).evaluate ⟨(Grid.slab 3 1 4).descriptor, 0, 1, 1, 0, 2⟩
            (Grid.slab 3 1 4).functions.buffers.state out memory).buffer = rates)
      ∧ rates[0]? = some 0 ∧ rates[17]? = some 4 ∧ rates[53]? = some 8 := by
  have hn : 2 * (Grid.slab 3 1 4).descriptor.points = 72 := by decide +kernel
  obtain ⟨rates, -, heval, hfield⟩ := (diffusion_rates (σ := Unit) (1 / 3)
    ⟨(Grid.slab 3 1 4).descriptor, 0, 1, 1, 0, 2⟩ hn
    (Grid.slab 3 1 4).functions.buffers.state).2 (by decide +kernel)
  obtain ⟨y, -, hghost, -⟩ := (hfield 0 Nat.two_pos).1
  refine ⟨hn, rates, heval, hghost ⟨0, 0, 0⟩ (by decide +kernel) (by decide +kernel), ?_, ?_⟩
  · rw [← (heval (Vector.replicate 72 7) ()).2]
    decide +kernel
  · rw [← (heval (Vector.replicate 72 7) ()).2]
    decide +kernel

end MethodOfLines
