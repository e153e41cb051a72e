import Mathlib.Order.SuccPred.IntervalSucc
import MethodOfLines.Diffusion.Laplacian
import MethodOfLines.Proofs.Finite
import MethodOfLines.Proofs.Ghosts
import MethodOfLines.Proofs.Routed
import MethodOfLines.Proofs.Shape
import MethodOfLines.Proofs.Validation

/-!
# Proofs/Layout — the fields of a buffer, however they are read and written

A buffer holds its fields one after the other.  The accessors of a set of buffers, the range a
collaborator is told, the search for values that are not finite and the sum over the interior each
compute where a value stands, and all of them find the value of field `f` at point `p` at
`f * points + p` (`FieldSet.value?_eq_some`).

They agree as long as the buffers fit the shape, so it matters that nothing changes the size of a
buffer: whatever is written, and whatever a pool or a step does under any schedule, a set of buffers
keeps the points and fields it was made for (`FieldSet.Reachable.shape_eq`).
-/

namespace MethodOfLines

variable {σ α : Type}

/-! ## Values of a field -/

namespace FieldSet

variable {s : FieldSet α} {role : Role} {f p : Nat}

/-- The value of a field at a point. -/
def value? (s : FieldSet α) (role : Role) (f p : Nat) : Option α :=
  (s.field? role f).bind (·[p]?)

/-- A field ends within its buffer. -/
theorem field_end_le_size (hf : f < s.fields) : f * s.points + s.points ≤ s.points * s.fields := by
  rw [Nat.mul_comm s.points]
  exact field_end_le s.points hf

/-- **A value of a field is an element of the buffer**, the fields one after the other. -/
theorem value?_eq_some {x : α} : s.value? role f p = some x ↔
    f < s.fields ∧ p < s.points ∧ (s.buffer role)[f * s.points + p]? = some x := by
  unfold value? field?
  split
  · next hf =>
    have hlen : min (f * s.points + s.points) (s.buffer role).toArray.size - f * s.points
        = s.points := by
      rw [Vector.size_toArray, Nat.min_eq_left (field_end_le_size hf), Nat.add_sub_cancel_left]
    rw [Option.bind_some, Array.getElem?_extract, hlen, Option.ite_none_right_eq_some,
      Vector.getElem?_toArray]
    simp [hf]
  · next hf => simp [hf]

theorem value?_of_lt (hf : f < s.fields) (hp : p < s.points) :
    s.value? role f p = (s.buffer role)[f * s.points + p]? := by
  ext x
  simp [value?_eq_some, hf, hp]

/-- A field has a value at every point. -/
theorem exists_value? (role : Role) (hf : f < s.fields) (hp : p < s.points) :
    ∃ x, s.value? role f p = some x := by
  have hend := field_end_le_size hf
  rw [value?_of_lt hf hp, Vector.getElem?_eq_getElem (by omega)]
  exact ⟨_, rfl⟩

theorem getElem?_setBuffer_self (s : FieldSet α) (role : Role)
    (v : Vector α (s.points * s.fields)) (j : Nat) :
    ((s.setBuffer role v).buffer role)[j]? = v[j]? :=
  congrArg (fun w : Vector α (s.points * s.fields) => w[j]?) (Buffers.get_set_self s.buffers role v)

theorem getElem?_setBuffer_of_ne (s : FieldSet α) {role role' : Role} (hne : role' ≠ role)
    (v : Vector α (s.points * s.fields)) (j : Nat) :
    ((s.setBuffer role v).buffer role')[j]? = (s.buffer role')[j]? :=
  congrArg (fun w : Vector α (s.points * s.fields) => w[j]?)
    (Buffers.get_set_of_ne s.buffers v hne)

/-- A stretch of a buffer written over. -/
theorem getElem?_overwrite {m n offset : Nat} (v : Vector α n) (values : Vector α m)
    (hend : offset + m ≤ n) (j : Nat) :
    (v.mapIdx fun i old => if offset ≤ i then (values[i - offset]?).getD old else old)[j]?
      = if offset ≤ j ∧ j < offset + m then values[j - offset]? else v[j]? := by
  rw [Vector.getElem?_mapIdx]
  by_cases hj : offset ≤ j ∧ j < offset + m
  · rw [if_pos hj, Vector.getElem?_eq_getElem (by omega : j < n),
      Vector.getElem?_eq_getElem (by omega : j - offset < m), Option.map_some, if_pos hj.1]
    rfl
  · have hkeep : ∀ old, (if offset ≤ j then (values[j - offset]?).getD old else old) = old := by
      intro old
      refine ite_eq_right_iff.mpr fun hle => ?_
      rw [Vector.getElem?_eq_none (by omega)]
      rfl
    simp only [if_neg hj, hkeep, Option.map_id_fun', id]

/-- **What is written to a field** is written to its stretch of the buffer. -/
theorem exists_setField? (s : FieldSet α) (role : Role) (hf : f < s.fields)
    (values : Vector α s.points) :
    ∃ v, s.setField? role f values = some (s.setBuffer role v)
      ∧ ∀ j, v[j]? = if f * s.points ≤ j ∧ j < f * s.points + s.points
        then values[j - f * s.points]? else (s.buffer role)[j]? :=
  ⟨_, if_pos hf, getElem?_overwrite _ values (field_end_le_size hf)⟩

end FieldSet

/-! ## The ranges of the fields -/

namespace Context

variable {ctx : Context α}

/-- The elements of field `f`. -/
def elements (ctx : Context α) (f : Nat) : Set Nat :=
  Set.Ico (ctx.fieldRange f).1 (ctx.fieldRange f).2

/-- Field `f` of a buffer. -/
def slice (ctx : Context α) (f : Nat) (values : Array α) : Array α :=
  values.extract (ctx.fieldRange f).1 (ctx.fieldRange f).2

theorem mem_elements {f j : Nat} :
    j ∈ ctx.elements f ↔ f * ctx.points ≤ j ∧ j < f * ctx.points + ctx.points := by
  rw [elements, fieldRange, Nat.succ_mul, Set.mem_Ico]

/-- **No element belongs to two fields.** -/
theorem disjoint_elements (ctx : Context α) :
    Pairwise fun f f' => Disjoint (ctx.elements f) (ctx.elements f') :=
  Monotone.pairwise_disjoint_on_Ico_succ fun _ _ h => Nat.mul_le_mul_right ctx.points h

/-- **The fields of a buffer, one after the other, are its beginning.** -/
theorem flatMap_slice (ctx : Context α) (values : Array α) (n : Nat) :
    (List.range n).flatMap (fun f => (ctx.slice f values).toList)
      = values.toList.take (n * ctx.points) := by
  induction n with
  | zero => simp
  | succ n ih =>
    rw [List.range_succ, List.flatMap_append, ih, List.flatMap_singleton, slice,
      Array.toList_extract, List.extract_eq_take_drop, fieldRange, Nat.succ_mul,
      Nat.add_sub_cancel_left, ← List.take_add]

end Context

/-! ## All views of a buffer agree -/

namespace FieldSet

variable {s : FieldSet α} {ctx : Context α} {role : Role} {f : Nat}

/-- The slice a collaborator finds is the field. -/
theorem field?_eq_slice (hpoints : s.points = ctx.points) (hf : f < s.fields) :
    s.field? role f = some (ctx.slice f (s.buffer role).toArray) := by
  rw [field?, if_pos hf, Context.slice, Context.fieldRange, Nat.succ_mul, ← hpoints]

theorem flatMap_slice_buffer (hpoints : s.points = ctx.points) (role : Role) :
    (List.range s.fields).flatMap (fun f => (ctx.slice f (s.buffer role).toArray).toList)
      = (s.buffer role).toList := by
  rw [Context.flatMap_slice, ← hpoints, Nat.mul_comm]
  exact List.take_of_length_le (Nat.le_of_eq (Vector.length_toList ..))

/-- **A write to a field is seen in that field alone.** -/
theorem setField?_writes (hpoints : s.points = ctx.points) (role : Role) (hf : f < s.fields)
    (values : Vector α s.points) :
    ∃ s', s.setField? role f values = some s'
      ∧ (∀ p < s.points, s'.value? role f p = values[p]?)
      ∧ ∀ role' j, role' ≠ role ∨ j ∉ ctx.elements f →
        (s'.buffer role')[j]? = (s.buffer role')[j]? := by
  obtain ⟨v, hset, hv⟩ := s.exists_setField? role hf values
  refine ⟨_, hset, fun p hp => ?_, fun role' j hout => ?_⟩
  · have hin : f * s.points ≤ f * s.points + p ∧ f * s.points + p < f * s.points + s.points := by
      omega
    calc (s.setBuffer role v).value? role f p
        = ((s.setBuffer role v).buffer role)[f * s.points + p]? := value?_of_lt hf hp
      _ = v[f * s.points + p]? := s.getElem?_setBuffer_self role v _
      _ = values[p]? := by rw [hv, if_pos hin, Nat.add_sub_cancel_left]
  · rcases eq_or_ne role' role with rfl | hne
    · have hj := hout.resolve_left fun h => h rfl
      rw [Context.mem_elements, ← hpoints] at hj
      rw [getElem?_setBuffer_self, hv, if_neg hj]
    · exact s.getElem?_setBuffer_of_ne hne v j

variable [Scalar α]

/-- **The search stops at the first value that is not finite**, in the order of fields and then of
points. -/
theorem value?_of_checkFinite (hpos : 0 < s.points) {e : EvalError}
    (h : checkFinite s.points (s.buffer role).toArray = .error e) :
    ∃ f p x, e = .nanDetected f (some p) ∧ f < s.fields ∧ p < s.points
      ∧ s.value? role f p = some x ∧ Scalar.isFinite x = false
      ∧ ∀ f' p' y, f' < f ∨ f' = f ∧ p' < p → s.value? role f' p' = some y →
        Scalar.isFinite y = true := by
  -- The search goes through the elements in order; `i` is where it stopped.
  obtain ⟨i, x, hx, hbad, hbefore, rfl⟩ := checkFinite_eq_error h
  have hi : i < s.points * s.fields := by
    obtain ⟨hlt, -⟩ := Array.getElem?_eq_some_iff.mp hx
    rwa [Vector.size_toArray] at hlt
  have hf := Nat.div_lt_of_lt_mul hi
  have hp := Nat.mod_lt i hpos
  refine ⟨_, _, x, rfl, hf, hp, value?_eq_some.mpr ⟨hf, hp, ?_⟩, hbad, fun f' p' y hlt hy => ?_⟩
  · rwa [Nat.div_add_mod', ← Vector.getElem?_toArray]
  · obtain ⟨-, hp', hy⟩ := value?_eq_some.mp hy
    have hearlier : f' * s.points + p' < i := by
      have hdigits := (digit_lt_digit hp' hp).mpr hlt
      rwa [Nat.mod_add_div, Nat.mul_comm, Nat.add_comm] at hdigits
    exact hbefore _ hearlier y (by rwa [Vector.getElem?_toArray])

/-- **The sum over the interior reads the field**, at points that it has. -/
theorem interiorSum_eq_foldl (hpoints : s.points = ctx.points) (hf : f < s.fields) :
    (∀ i ∈ ctx.grid.interiorBox, ∃ x, s.value? .state f (ctx.grid.pointIndex i) = some x)
      ∧ interiorSum ⟨ctx.grid, s⟩ f = ctx.grid.interiorBox.foldl
        (fun sum i => sum + (s.value? .state f (ctx.grid.pointIndex i)).getD 0) 0 := by
  have hlt : ∀ i ∈ ctx.grid.interiorBox, ctx.grid.pointIndex i < s.points := fun i hi =>
    hpoints ▸ Descriptor.pointIndex_lt (Descriptor.mem_box_of_interior hi)
  refine ⟨fun i hi => exists_value? _ hf (hlt i hi), List.foldl_ext _ _ _ fun sum i hi => ?_⟩
  have hvalue : s.value? .state f (ctx.grid.pointIndex i)
      = (s.buffer .state)[f * ctx.points + ctx.grid.pointIndex i]? := by
    rw [← hpoints, value?_of_lt hf (hlt i hi)]
  exact congrArg (fun x => sum + x.getD 0) hvalue.symm

/-- **How buffers are laid out on the shape of a context**: the fields are the ranges that
collaborators are told; the ranges are disjoint and make up the whole buffer; a field can be written
without a trace elsewhere; the sum over the interior reads the field; and the search for values that
are not finite names the first of them, fields before points. -/
structure LaidOut (s : FieldSet α) (ctx : Context α) : Prop where
  slices : ∀ role, ∀ f < s.fields, s.field? role f = some (ctx.slice f (s.buffer role).toArray)
  disjoint : Pairwise fun f f' => Disjoint (ctx.elements f) (ctx.elements f')
  whole : ∀ role, (List.range s.fields).flatMap
    (fun f => (ctx.slice f (s.buffer role).toArray).toList) = (s.buffer role).toList
  writes : ∀ role, ∀ f < s.fields, ∀ values : Vector α s.points,
    ∃ s', s.setField? role f values = some s'
      ∧ (∀ p < s.points, s'.value? role f p = values[p]?)
      ∧ ∀ role' j, role' ≠ role ∨ j ∉ ctx.elements f →
        (s'.buffer role')[j]? = (s.buffer role')[j]?
  sums : ∀ f < s.fields,
    (∀ i ∈ ctx.grid.interiorBox, ∃ x, s.value? .state f (ctx.grid.pointIndex i) = some x)
      ∧ interiorSum ⟨ctx.grid, s⟩ f = ctx.grid.interiorBox.foldl
        (fun sum i => sum + (s.value? .state f (ctx.grid.pointIndex i)).getD 0) 0
  finite : ∀ role, checkFinite s.points (s.buffer role).toArray = .ok () ↔
    ∀ x ∈ s.buffer role, Scalar.isFinite x = true
  notFinite : ∀ role e, checkFinite s.points (s.buffer role).toArray = .error e →
    ∃ f p x, e = .nanDetected f (some p) ∧ f < s.fields ∧ p < s.points
      ∧ s.value? role f p = some x ∧ Scalar.isFinite x = false
      ∧ ∀ f' p' y, f' < f ∨ f' = f ∧ p' < p → s.value? role f' p' = some y →
        Scalar.isFinite y = true

/-- **Buffers that fit a shape are laid out on it.** -/
theorem laidOut_of_validateAgainst (h : s.validateAgainst ctx.grid = .ok ()) : s.LaidOut ctx := by
  have hpoints : s.points = ctx.points := (of_validateAgainst h).1
  have hpos : 0 < s.points := hpoints ▸ ctx.grid.points_pos
  exact
    { slices := fun _ _ hf => field?_eq_slice hpoints hf
      disjoint := ctx.disjoint_elements
      whole := flatMap_slice_buffer hpoints
      writes := fun role _ hf values => setField?_writes hpoints role hf values
      sums := fun _ hf => interiorSum_eq_foldl hpoints hf
      finite := fun role => by rw [checkFinite_eq_ok_iff hpos]; simp
      notFinite := fun _ _ he => value?_of_checkFinite hpos he }

end FieldSet

/-! ## Nothing changes the size of a buffer -/

/-- Whatever a pool is asked and however its streams take turns, its grids keep their shapes. -/
theorem Machine.Routed.forall₂_refills {size : Nat} {grids : List (Grid α)}
    {requests : List (Request α)} {m : Machine σ α} (h : m.Routed size grids requests) :
    List.Forall₂ Grid.Refills grids m.pool.grids := by
  refine Pool.forall₂_grids h.bindings fun e he => ?_
  obtain ⟨lane, hmem, hi⟩ := h.exists_lane he
  obtain ⟨g, hg, hrefills⟩ := h.owns lane hmem e he hi.symm
  exact ⟨g, (h.grid?_pool hmem hi.symm).trans hg, hrefills⟩

/-- Grids that keep their shapes have buffers of the sizes they had. -/
theorem Grid.shape_eq_of_forall₂ {grids grids' : List (Grid α)}
    (h : List.Forall₂ Grid.Refills grids grids') {i : Nat} {g g' : Grid α}
    (hg : grids[i]? = some g) (hg' : grids'[i]? = some g') :
    g'.functions.points = g.functions.points ∧ g'.functions.fields = g.functions.fields := by
  obtain ⟨hi, rfl⟩ := List.getElem?_eq_some_iff.mp hg
  obtain ⟨hi', rfl⟩ := List.getElem?_eq_some_iff.mp hg'
  obtain ⟨b, hb⟩ : Grid.Refills grids[i] grids'[i] := h.get hi hi'
  rw [hb]
  exact ⟨rfl, rfl⟩

namespace FieldSet

variable {points fields : Nat} {s s' : FieldSet α}

theorem shape_of_zeroed [Zero α] (h : zeroed points fields = .ok s) :
    s.points = points ∧ s.fields = fields := by
  unfold zeroed at h
  split at h
  · cases h
  · split at h
    · cases h
    · cases h
      exact ⟨rfl, rfl⟩

theorem shape_of_ofArrays {arrays : Role → Array α} (h : ofArrays points fields arrays = .ok s) :
    s.points = points ∧ s.fields = fields := by
  unfold ofArrays at h
  split at h
  · cases h
  · split at h
    · cases h
    · split at h
      · cases h
      · cases h
        exact ⟨rfl, rfl⟩

theorem exists_setBuffer_of_setState {values : Array α} (h : s.setState values = .ok s') :
    ∃ v, s' = s.setBuffer .state v := by
  unfold setState at h
  split at h
  · cases h
    exact ⟨_, rfl⟩
  · cases h

theorem exists_setBuffer_of_setField? {role : Role} {f : Nat} {values : Vector α s.points}
    (h : s.setField? role f values = some s') : ∃ v, s' = s.setBuffer role v := by
  obtain ⟨-, h⟩ := Option.ite_none_right_eq_some.mp h
  exact ⟨_, (Option.some.inj h).symm⟩

variable [Scalar α]

/-- **How buffers for `fields` fields on `points` points can come about**: they are made of zeros or
given, and from then on their state is set, they are written to as a whole or field by field, and
they are among the grids that a step takes or a pool serves, for any collaborators. -/
inductive Reachable (points fields : Nat) : FieldSet α → Prop
  | zeroed {s : FieldSet α} (h : FieldSet.zeroed points fields = .ok s) : Reachable points fields s
  | ofArrays {s : FieldSet α} (arrays : Role → Array α)
    (h : FieldSet.ofArrays points fields arrays = .ok s) : Reachable points fields s
  | setState {s s' : FieldSet α} (values : Array α) (hs : Reachable points fields s)
    (h : s.setState values = .ok s') : Reachable points fields s'
  | setBuffer {s : FieldSet α} (role : Role) (v : Vector α (s.points * s.fields))
    (hs : Reachable points fields s) : Reachable points fields (s.setBuffer role v)
  | setField {s s' : FieldSet α} (role : Role) (f : Nat) (values : Vector α s.points)
    (hs : Reachable points fields s) (h : s.setField? role f values = some s') :
    Reachable points fields s'
  | step {σ : Type} {stepper : Stepper σ α} {clock : Clock α} {grids : List (Grid α)} {memory : σ}
    {a : Advance σ α} (h : stepper.Ends clock grids memory a) {i : Nat} {g g' : Grid α}
    (hbefore : grids[i]? = some g) (hafter : a.grids[i]? = some g')
    (hs : Reachable points fields g.functions) : Reachable points fields g'.functions
  | served {σ : Type} (ops : Operators σ α) (d : Discipline) (size : Nat) (grids : List (Grid α))
    (memory : σ) (requests : List (Request α)) (schedule : Schedule) {i : Nat} {g g' : Grid α}
    (hbefore : grids[i]? = some g)
    (hafter : ((Machine.start size grids memory requests).run ops d schedule).pool.grids[i]?
      = some g')
    (hs : Reachable points fields g.functions) : Reachable points fields g'.functions

/-- **Buffers keep the points and fields they were made for.** -/
theorem Reachable.shape_eq (h : Reachable points fields s) :
    s.points = points ∧ s.fields = fields := by
  induction h with
  | zeroed h => exact shape_of_zeroed h
  | ofArrays arrays h => exact shape_of_ofArrays h
  | setState values hs h ih =>
    obtain ⟨v, rfl⟩ := exists_setBuffer_of_setState h
    exact ih
  | setBuffer role v hs ih => exact ih
  | setField role f values hs h ih =>
    obtain ⟨v, rfl⟩ := exists_setBuffer_of_setField? h
    exact ih
  | step h hbefore hafter hs ih =>
    obtain ⟨hpoints, hfields⟩ := Grid.shape_eq_of_forall₂ h.forall₂_refills hbefore hafter
    exact ⟨hpoints.trans ih.1, hfields.trans ih.2⟩
  | served ops d size grids memory requests schedule hbefore hafter hs ih =>
    have hrouted := Machine.routed_run ops d size grids memory requests schedule
    obtain ⟨hpoints, hfields⟩ :=
      Grid.shape_eq_of_forall₂ hrouted.forall₂_refills hbefore hafter
    exact ⟨hpoints.trans ih.1, hfields.trans ih.2⟩

/-- **Buffers keep their shape, and all views of them agree.** Whatever is done to buffers made for
`fields` fields on `points` points, they have that size in every role; and on every shape that they
fit, they are laid out field by field. -/
theorem Reachable.keeps_shape_and_layout (h : Reachable points fields s) :
    s.points = points ∧ s.fields = fields
      ∧ (∀ role, (s.buffer role).toArray.size = points * fields)
      ∧ ∀ ctx : Context α, s.validateAgainst ctx.grid = .ok () → s.LaidOut ctx := by
  obtain ⟨hpoints, hfields⟩ := h.shape_eq
  refine ⟨hpoints, hfields, fun role => ?_, fun ctx => laidOut_of_validateAgainst⟩
  rw [Vector.size_toArray, hpoints, hfields]

end FieldSet

/-- A set of one field on two points, filled and then taken through a step. -/
theorem FieldSet.Reachable.keeps_shape_and_layout_pair :
    let s : Stepper Unit Rat := .heunThird (.affine 1 2 3) .none
    let clock : Clock Rat := ⟨0, 1, 0⟩
    let g := Grid.pair 3 .extrapolation 1 2
    let ctx : Context Rat := ⟨g.descriptor, 0, 1, 1, 0, 1⟩
    ∃ g', (s.step clock [g] ()).grids[0]? = some g' ∧ g'.functions.points = 2
      ∧ g'.functions.fields = 1 ∧ g'.functions.LaidOut ctx := by
  intro s clock g ctx
  have hfilled : FieldSet.Reachable 2 1 g.functions :=
    .ofArrays (fun role => (g.functions.buffer role).toArray) rfl
  have hends := s.ends_step clock [g] ()
  obtain ⟨g', hg'⟩ : ∃ g', (s.step clock [g] ()).grids[0]? = some g' := by
    have hlength := hends.forall₂_refills.length_eq
    exact ⟨_, List.getElem?_eq_getElem (hlength ▸ Nat.one_pos)⟩
  obtain ⟨hpoints, hfields, -, hlaid⟩ :=
    FieldSet.Reachable.keeps_shape_and_layout (.step hends (i := 0) rfl hg' hfilled)
  exact ⟨g', hg', hpoints, hfields, hlaid ctx (FieldSet.validateAgainst_of_points hpoints)⟩

end MethodOfLines
