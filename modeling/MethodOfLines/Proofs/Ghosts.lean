import MethodOfLines.Proofs.Collaborators
import MethodOfLines.Proofs.Numbering

/-!
# Proofs/Ghosts — filling in place is filling from the original

Ghost points are filled one after the other in the buffer they are read from.  What is copied is an
interior point, and no interior point is ever copied over by another, so every point ends with what
its nearest interior point held at the start (`getElem?_fillGhostsAt`).  A field is **filled** if
this changes nothing; filling makes it so, and leaves the other fields and the interior alone.

`fillGhostsAt?` is the same walk with every access checked, and it never stops
(`fillGhostsAt?_eq_some`).
-/

namespace MethodOfLines

/-! ## Copies within a vector -/

section Copies

variable {β ι : Type} {n : Nat}

theorem getElem?_copyElement (v : Vector β n) {source target : Nat} (hs : source < n)
    (ht : target < n) (k : Nat) :
    (copyElement v source target)[k]? = if target = k then v[source]? else v[k]? := by
  rw [copyElement, Vector.getElem?_eq_getElem hs]
  split
  · next heq =>
    subst heq
    split
    · next hk => rw [← hk, Vector.getElem?_eq_getElem hs]
    · rfl
  · by_cases hk : target = k
    · subst hk
      simp [ht]
    · simp [hk]

theorem getElem?_copyElement_of_ne (v : Vector β n) {source target k : Nat} (h : target ≠ k) :
    (copyElement v source target)[k]? = v[k]? := by
  rw [copyElement]
  split
  · rfl
  · split
    · exact Vector.getElem?_setIfInBounds_ne h
    · rfl

variable (source target : ι → Nat) {l : List ι}

/-- What is not copied over stays. -/
theorem getElem?_foldl_copyElement_of_ne {k : Nat} (h : ∀ i ∈ l, target i ≠ k) (v : Vector β n) :
    (l.foldl (fun v i => copyElement v (source i) (target i)) v)[k]? = v[k]? := by
  induction l generalizing v with
  | nil => rfl
  | cons i l ih =>
    obtain ⟨hi, hl⟩ := List.forall_mem_cons.mp h
    rw [List.foldl_cons, ih hl, getElem?_copyElement_of_ne v hi]

/-- **Copies in place are copies from the original**, if what is copied from is only ever copied
over by itself. -/
theorem getElem?_foldl_copyElement (hlt : ∀ i ∈ l, source i < n ∧ target i < n)
    (hsame : ∀ i ∈ l, ∀ j ∈ l, target i = target j → source i = source j)
    (hfixed : ∀ i ∈ l, ∀ j ∈ l, target i = source j → source i = source j) (v : Vector β n) :
    ∀ i ∈ l, (l.foldl (fun v i => copyElement v (source i) (target i)) v)[target i]?
      = v[source i]? := by
  induction l generalizing v with
  | nil => exact fun i hi => absurd hi List.not_mem_nil
  | cons i l ih =>
    have hrest := ih (fun j hj => hlt j (List.mem_cons_of_mem _ hj))
      (fun j hj k hk => hsame j (List.mem_cons_of_mem _ hj) k (List.mem_cons_of_mem _ hk))
      (fun j hj k hk => hfixed j (List.mem_cons_of_mem _ hj) k (List.mem_cons_of_mem _ hk))
      (copyElement v (source i) (target i))
    obtain ⟨hs, ht⟩ := hlt i List.mem_cons_self
    -- the first copy does not touch what the others read
    have hread : ∀ j ∈ l, (copyElement v (source i) (target i))[source j]? = v[source j]? := by
      intro j hj
      rw [getElem?_copyElement v hs ht]
      split
      · next heq => rw [hfixed i List.mem_cons_self j (List.mem_cons_of_mem _ hj) heq]
      · rfl
    intro j hj
    rw [List.foldl_cons]
    rcases List.mem_cons.mp hj with rfl | hj
    · by_cases hagain : ∃ k ∈ l, target k = target j
      · obtain ⟨k, hk, heq⟩ := hagain
        have hlast := hrest k hk
        rwa [hread k hk, hsame k (List.mem_cons_of_mem _ hk) j List.mem_cons_self heq, heq]
          at hlast
      · rw [getElem?_foldl_copyElement_of_ne source target fun k hk heq => hagain ⟨k, hk, heq⟩,
          getElem?_copyElement v hs ht, if_pos rfl]
    · rw [hrest j hj, hread j hj]

theorem vector_ext {v w : Vector β n} (h : ∀ k : Nat, v[k]? = w[k]?) : v = w := by
  ext k hk
  simpa [hk] using h k

/-- A walk whose steps all succeed. -/
theorem foldlM_eq_some {γ : Type} {step? : γ → ι → Option γ} {step : γ → ι → γ}
    (h : ∀ i ∈ l, ∀ c, step? c i = some (step c i)) (c : γ) :
    l.foldlM step? c = some (l.foldl step c) := by
  induction l generalizing c with
  | nil => rfl
  | cons i l ih =>
    obtain ⟨hi, hl⟩ := List.forall_mem_cons.mp h
    rw [List.foldlM_cons, hi, Option.bind_eq_bind, Option.bind_some, List.foldl_cons, ih hl]

end Copies

/-! ## One field -/

section Field

variable {α β : Type} {n : Nat} {d : Descriptor α} {offset : Nat} {i : Axes Nat}

/-- An element is a point of the field at `offset`, or it is outside. -/
theorem Descriptor.point_cases (d : Descriptor α) (offset k : Nat) :
    (∃ i ∈ d.box, k = offset + d.pointIndex i) ∨ k < offset ∨ offset + d.points ≤ k := by
  by_cases h : offset ≤ k ∧ k < offset + d.points
  · obtain ⟨hmem, heq⟩ := pointIndex_coordinates (d := d) (p := k - offset) (by omega)
    exact .inl ⟨_, hmem, by omega⟩
  · exact .inr (by omega)

/-- **A point takes what its nearest interior point held.** -/
theorem getElem?_fillGhostsAt (h : offset + d.points ≤ n) (v : Vector β n) (hi : i ∈ d.box) :
    (fillGhostsAt d offset v)[offset + d.pointIndex i]?
      = v[offset + d.pointIndex (d.nearest i)]? := by
  have hbox := fun j => Descriptor.mem_box_of_interior (d.nearest_mem j)
  rw [fillGhostsAt]
  split
  · next hg =>
    rw [Descriptor.nearest_of_interior (Descriptor.mem_interiorBox_of_ghosts hg hi)]
  · refine getElem?_foldl_copyElement (fun i => offset + d.pointIndex (d.nearest i))
      (fun i => offset + d.pointIndex i) (fun j hj => ?_) (fun j hj k hk heq => ?_)
      (fun j hj k hk heq => ?_) v i hi
    · have hsource := Descriptor.pointIndex_lt (hbox j)
      have htarget := Descriptor.pointIndex_lt hj
      omega
    · rw [(Descriptor.pointIndex_inj hj hk).mp (Nat.add_left_cancel heq)]
    · rw [(Descriptor.pointIndex_inj hj (hbox k)).mp (Nat.add_left_cancel heq),
        Descriptor.nearest_nearest]

/-- What is outside the field stays. -/
theorem getElem?_fillGhostsAt_outside {k : Nat} (h : k < offset ∨ offset + d.points ≤ k)
    (v : Vector β n) : (fillGhostsAt d offset v)[k]? = v[k]? := by
  rw [fillGhostsAt]
  split
  · rfl
  · refine getElem?_foldl_copyElement_of_ne (fun i => offset + d.pointIndex (d.nearest i))
      (fun i => offset + d.pointIndex i) (fun i hi => ?_) v
    have hlt := Descriptor.pointIndex_lt hi
    omega

/-- **The interior stays.** -/
theorem getElem?_fillGhostsAt_interior (h : offset + d.points ≤ n) (v : Vector β n)
    (hi : i ∈ d.interiorBox) :
    (fillGhostsAt d offset v)[offset + d.pointIndex i]? = v[offset + d.pointIndex i]? := by
  rw [getElem?_fillGhostsAt h v (Descriptor.mem_box_of_interior hi),
    Descriptor.nearest_of_interior hi]

/-- **A field is filled if every point holds what its nearest interior point holds.** -/
theorem fillGhostsAt_eq_self_iff (h : offset + d.points ≤ n) {v : Vector β n} :
    fillGhostsAt d offset v = v ↔
      ∀ i ∈ d.box, v[offset + d.pointIndex i]? = v[offset + d.pointIndex (d.nearest i)]? := by
  refine ⟨fun heq i hi => ?_, fun hfilled => vector_ext fun k => ?_⟩
  · rw [← getElem?_fillGhostsAt h v hi, heq]
  · rcases d.point_cases offset k with ⟨i, hi, rfl⟩ | houtside
    · rw [getElem?_fillGhostsAt h v hi, hfilled i hi]
    · exact getElem?_fillGhostsAt_outside houtside v

/-- **Filling twice is filling once.** -/
theorem fillGhostsAt_fillGhostsAt (h : offset + d.points ≤ n) (v : Vector β n) :
    fillGhostsAt d offset (fillGhostsAt d offset v) = fillGhostsAt d offset v := by
  refine (fillGhostsAt_eq_self_iff h).mpr fun i hi => ?_
  rw [getElem?_fillGhostsAt h v hi,
    getElem?_fillGhostsAt_interior h v (d.nearest_mem i)]

/-- **The ghost points filled with every access checked.**  There is no result if the field does
not lie within the buffer, if coordinates cannot be clamped because there is nothing between the
ghost layers of an axis, or if a point that is read or written lies beyond the field. -/
def fillGhostsAt? (d : Descriptor α) (offset : Nat) (v : Vector β n) : Option (Vector β n) :=
  if offset + d.points ≤ n then
    if d.ghosts = 0 then some v
    else if ∀ extent ∈ d.dims.toList, 2 * d.ghosts < extent then
      d.box.foldlM (fun v i =>
        let source := d.pointIndex (d.nearest i)
        let target := d.pointIndex i
        if source < d.points ∧ target < d.points then
          some (copyElement v (offset + source) (offset + target))
        else none) v
    else none
  else none

/-- **No access is out of range**, if the field lies within the buffer. -/
theorem fillGhostsAt?_eq_some (h : offset + d.points ≤ n) (v : Vector β n) :
    fillGhostsAt? d offset v = some (fillGhostsAt d offset v) := by
  have hclamp : ∀ extent ∈ d.dims.toList, 2 * d.ghosts < extent := by
    obtain ⟨h0, h1, h2⟩ := d.interior_pos
    simp only [Axes.toList, Descriptor.dims, padded, Axes.map, List.mem_cons, List.not_mem_nil,
      or_false, forall_eq_or_imp, forall_eq]
    omega
  rw [fillGhostsAt?, if_pos h, if_pos hclamp, fillGhostsAt]
  split
  · rfl
  · refine foldlM_eq_some (fun i hi v => if_pos ⟨?_, Descriptor.pointIndex_lt hi⟩) v
    exact Descriptor.pointIndex_lt (Descriptor.mem_box_of_interior (d.nearest_mem i))

end Field

/-! ## All fields -/

section Fields

variable {σ α β : Type} {n : Nat} {d : Descriptor α}

/-- The ghost points of the first fields, filled. -/
def fillFields (d : Descriptor α) (fields : Nat) (v : Vector β n) : Vector β n :=
  (List.range fields).foldl (fun v f => fillGhostsAt d (f * d.points) v) v

/-- **Every field is filled.** -/
def Filled (d : Descriptor α) (fields : Nat) (v : Vector β n) : Prop :=
  ∀ f < fields, fillGhostsAt d (f * d.points) v = v

theorem fillFields_succ (d : Descriptor α) (fields : Nat) (v : Vector β n) :
    fillFields d (fields + 1) v
      = fillGhostsAt d (fields * d.points) (fillFields d fields v) := by
  rw [fillFields, List.range_succ, List.foldl_append]
  rfl

/-- A field ends where the next one starts, and no later than the last. -/
theorem field_end_le (points : Nat) {f fields : Nat} (hf : f < fields) :
    f * points + points ≤ fields * points := by
  rw [← Nat.succ_mul]
  exact Nat.mul_le_mul_right _ hf

theorem getElem?_fillFields_outside {fields k : Nat} (hk : fields * d.points ≤ k)
    (v : Vector β n) : (fillFields d fields v)[k]? = v[k]? := by
  induction fields with
  | zero => rfl
  | succ fields ih =>
    have hend := field_end_le d.points (Nat.lt_add_one fields)
    rw [fillFields_succ, getElem?_fillGhostsAt_outside (by omega), ih (by omega)]

/-- **A point takes what its nearest interior point held in the same field.** -/
theorem getElem?_fillFields {fields : Nat} (h : fields * d.points ≤ n) (v : Vector β n) {f : Nat}
    (hf : f < fields) {i : Axes Nat} (hi : i ∈ d.box) :
    (fillFields d fields v)[f * d.points + d.pointIndex i]?
      = v[f * d.points + d.pointIndex (d.nearest i)]? := by
  induction fields with
  | zero => exact absurd hf (Nat.not_lt_zero f)
  | succ fields ih =>
    have hend := field_end_le d.points (Nat.lt_add_one fields)
    rw [fillFields_succ]
    rcases Nat.lt_succ_iff_lt_or_eq.mp hf with hlt | rfl
    · have hpoint := Descriptor.pointIndex_lt hi
      have hbefore := field_end_le d.points hlt
      rw [getElem?_fillGhostsAt_outside (by omega), ih (by omega) hlt]
    · rw [getElem?_fillGhostsAt (by omega) _ hi, getElem?_fillFields_outside (by omega)]

/-- **Filling the fields fills them.** -/
theorem filled_fillFields {fields : Nat} (h : fields * d.points ≤ n) (v : Vector β n) :
    Filled d fields (fillFields d fields v) := by
  intro f hf
  have hend := field_end_le d.points hf
  refine (fillGhostsAt_eq_self_iff (by omega)).mpr fun i hi => ?_
  rw [getElem?_fillFields h v hf hi, getElem?_fillFields h v hf
    (Descriptor.mem_box_of_interior (d.nearest_mem i)), d.nearest_nearest]

/-- The ghost points of the first fields filled with every access checked. -/
def fillFields? (d : Descriptor α) (fields : Nat) (v : Vector β n) : Option (Vector β n) :=
  (List.range fields).foldlM (fun v f => fillGhostsAt? d (f * d.points) v) v

theorem fillFields?_eq_some {fields : Nat} (h : fields * d.points ≤ n) (v : Vector β n) :
    fillFields? d fields v = some (fillFields d fields v) := by
  refine foldlM_eq_some (fun f hf v => fillGhostsAt?_eq_some ?_ v) v
  exact Nat.le_trans (field_end_le d.points (List.mem_range.mp hf)) h

/-! ## The enforcer -/

/-- A buffer of the size a call is told of holds all the fields. -/
theorem Context.wholeFields_eq {ctx : Context α} (h : ctx.fields * ctx.points = n) :
    ctx.wholeFields n = ctx.fields := by
  have hpos : 0 < ctx.points := ctx.grid.points_pos
  rw [wholeFields, ← h, Nat.mul_div_cancel _ hpos, Nat.min_self]

/-- **Copying into the ghost points succeeds and fills every field**, on a buffer of the size it is
told of. -/
theorem Enforcer.apply_ghostCopy {ctx : Context α} (h : ctx.fields * ctx.points = n)
    (v : Vector α n) (memory : σ) :
    (ghostCopy.apply ctx v memory).outcome = .done
      ∧ (ghostCopy.apply ctx v memory).buffer = fillFields ctx.grid ctx.fields v := by
  simp only [ghostCopy, Context.wholeFields_eq h, if_true, true_and]
  rfl

theorem Enforcer.functional_ghostCopy : (ghostCopy : Enforcer σ α).Functional :=
  ⟨fun _ _ _ _ => ⟨rfl, rfl⟩, fun _ _ _ _ _ => ⟨rfl, rfl⟩⟩

end Fields

end MethodOfLines
