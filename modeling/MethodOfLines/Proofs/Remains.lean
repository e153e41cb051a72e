import MethodOfLines.Proofs.Crashes
import MethodOfLines.Proofs.FourBuffers
import MethodOfLines.Proofs.Stops

/-!
# Proofs/Remains — what is left of the states when a step fails

Only the last stage of a step writes the state: the kernels before it leave it alone, their result
is corrected in a stage buffer, and rates are never written to it (`Op.retains_execute`).  So a step
that fails earlier leaves every state as it was, whatever went wrong.

The last kernel writes the state once, on every element, or not at all, and reads rates and total
that stay where they are.  Hence, if no call crashes, a step that fails in the last stage leaves
each state as it was; or as the kernel made it of all elements and, if the policy asks for a
correction, as that was done; or as a correction left it that failed in this run, and then the
grid's stream holds its error (`Stepper.Remains`).
-/

namespace MethodOfLines

variable {σ α : Type}

/-! ## Grids with the same state -/

/-- The second grid is the first with other contents beside the state. -/
def Grid.Retains (g g' : Grid α) : Prop :=
  ∃ b, g' = g.setBuffers b ∧ b.state = g.functions.buffers.state

namespace Grid

theorem Retains.refl (g : Grid α) : g.Retains g := ⟨g.functions.buffers, rfl, rfl⟩

theorem Retains.trans {g g' g'' : Grid α} (h : g.Retains g') (h' : g'.Retains g'') :
    g.Retains g'' := by
  obtain ⟨b, rfl, hb⟩ := h
  obtain ⟨b', rfl, hb'⟩ := h'
  exact ⟨b', rfl, hb'.trans hb⟩

theorem Retains.state_eq {g g' : Grid α} (h : g.Retains g') : g'.state = g.state := by
  obtain ⟨b, rfl, hb⟩ := h
  exact congrArg Vector.toArray hb

theorem Retains.refills {g g' : Grid α} (h : g.Retains g') : g.Refills g' := by
  obtain ⟨b, hg, -⟩ := h
  exact ⟨b, hg⟩

theorem retains_setBuffer (g : Grid α) {role : Role} (h : role ≠ .state)
    (v : Vector α (g.functions.points * g.functions.fields)) : g.Retains (g.setBuffer role v) :=
  ⟨g.functions.buffers.set role v, rfl, g.functions.buffers.get_set_of_ne v h.symm⟩

end Grid

theorem Role.stageOutput_ne_state (i : Nat) : stageOutput i ≠ state := by
  rcases stageOutput_eq i with h | h <;> rw [h] <;> simp

variable [Scalar α]

/-! ## Kernels and the state -/

namespace StageKernel

/-- **A kernel before the last leaves the state.** -/
theorem state_apply {kernel : StageKernel α} (h : kernel.finalizes = false) (dt : α) (c : Cell α) :
    ((kernel.scale dt).apply c).state = c.state := by
  cases kernel with
  | single b => cases h
  | final b => cases h
  | first b next => rfl
  | intermediate b next => rfl

/-- **The last kernel leaves the rates and the total.** -/
theorem stage_total_apply {kernel : StageKernel α} (h : kernel.finalizes = true) (dt : α)
    (c : Cell α) :
    ((kernel.scale dt).apply c).stage = c.stage ∧ ((kernel.scale dt).apply c).total = c.total := by
  cases kernel with
  | single b => exact ⟨rfl, rfl⟩
  | final b => exact ⟨rfl, rfl⟩
  | first b next => cases h
  | intermediate b next => cases h

end StageKernel

/-- The kernel of a stage completes the state exactly if the stage is the last. -/
theorem Tableau.finalizes_stage (t : Tableau α) {i : Nat} (h : i < t.stages) :
    (t.stage i).kernel.finalizes = decide (i + 1 = t.stages) := by
  simp only [stage, kernel]
  split
  · next hs => simp [StageKernel.finalizes]; omega
  · split
    · next hs hi => simp [StageKernel.finalizes]; omega
    · split
      · next hi => simp [StageKernel.finalizes, hi]
      · next hi => simp [StageKernel.finalizes, hi]

namespace Buffers

variable {n : Nat} (b : Buffers α n) (f : Cell α → Cell α) (i : Nat)

omit [Scalar α] in
theorem state_mapCells :
    (b.mapCells f (.stageOutput i)).state = .ofFn fun j : Fin n =>
      (f ⟨b.state.get j, (b.get (.stageOutput i)).get j, b.total.get j⟩).state := by
  rcases Role.stageOutput_eq i with h | h <;> rw [h] <;> rfl

omit [Scalar α] in
theorem stage_mapCells :
    (b.mapCells f (.stageOutput i)).get (.stageOutput i) = .ofFn fun j : Fin n =>
      (f ⟨b.state.get j, (b.get (.stageOutput i)).get j, b.total.get j⟩).stage := by
  rcases Role.stageOutput_eq i with h | h <;> rw [h] <;> rfl

omit [Scalar α] in
theorem total_mapCells :
    (b.mapCells f (.stageOutput i)).total = .ofFn fun j : Fin n =>
      (f ⟨b.state.get j, (b.get (.stageOutput i)).get j, b.total.get j⟩).total := by
  rcases Role.stageOutput_eq i with h | h <;> rw [h] <;> rfl

variable {b f i}

omit [Scalar α] in
theorem state_mapCells_eq (h : ∀ c, (f c).state = c.state) :
    (b.mapCells f (.stageOutput i)).state = b.state := by
  rw [state_mapCells]
  refine Vector.ext fun j hj => ?_
  rw [Vector.getElem_ofFn, h]
  rfl

omit [Scalar α] in
theorem stage_total_mapCells_eq (h : ∀ c, (f c).stage = c.stage ∧ (f c).total = c.total) :
    (b.mapCells f (.stageOutput i)).get (.stageOutput i) = b.get (.stageOutput i)
      ∧ (b.mapCells f (.stageOutput i)).total = b.total := by
  rw [stage_mapCells, total_mapCells]
  constructor <;> refine Vector.ext fun j hj => ?_
  · rw [Vector.getElem_ofFn, (h _).1]
    rfl
  · rw [Vector.getElem_ofFn, (h _).2]
    rfl

end Buffers

/-! ## Operations before the last kernel -/

namespace Op

/-- **A kernel runs or is refused, whatever the buffers hold.** -/
theorem executeLaunch_cases (overflow : Overflow) (stage : Stage α) (call : StageCall α)
    (work : Launch) (params : Option (Params α)) (g : Grid α) :
    (∃ v, v ≠ .done ∧ ∀ b,
        executeLaunch overflow params call stage.kernel stage.rhsOutput work (g.setBuffers b)
          = (v, g.setBuffers b))
      ∨ ∀ b, executeLaunch overflow params call stage.kernel stage.rhsOutput work (g.setBuffers b)
        = (.done,
          g.setBuffers (b.mapCells (stage.kernel.scale call.dt).apply stage.rhsOutput)) := by
  have hid : ∀ b, (g.setBuffers b).id = g.id := fun _ => rfl
  cases hp : params.filter (·.grid = g.id) with
  | none =>
    exact .inl ⟨_, Verdict.noConfusion, fun b => by simp only [executeLaunch, hid, hp]; rfl⟩
  | some synced =>
    obtain ⟨rfl, hgrid⟩ := Option.filter_eq_some_iff.mp hp
    have hgrid : synced.grid = g.id := of_decide_eq_true hgrid
    cases hm : Word.product? overflow synced.points g.functions.fields with
    | none =>
      have hfields : ∀ b, (g.setBuffers b).functions.fields = g.functions.fields := fun _ => rfl
      exact .inl ⟨_, Verdict.noConfusion, fun b => by
        simp only [executeLaunch, hid, hp, hfields, hm]; rfl⟩
    | some covered =>
      have hown := fun b => executeLaunch_own (g := g.setBuffers b) hgrid hm call stage work
      let refused := fun actual : Nat => Verdict.failed (.dispatch
        ⟨call.kernel, call.number, g.id, .bufferMismatch work.total actual⟩)
      by_cases hc : work.total ≠ covered
      · exact .inl ⟨refused covered, by simp [refused], fun b => (hown b).trans (if_pos hc)⟩
      · by_cases hfit : work.total = g.functions.points * g.functions.fields
        · exact .inr fun b => (hown b).trans ((if_neg hc).trans (if_pos hfit))
        · exact .inl ⟨refused (g.functions.points * g.functions.fields), by simp [refused],
            fun b => (hown b).trans ((if_neg hc).trans (if_neg hfit))⟩

variable (ops : Operators σ α) (stream : StreamIndex) (params : Option (Params α)) (g : Grid α)
  (memory : σ) {stage : Stage α} (call : StageCall α)

theorem retains_rates : g.Retains ((rates stage call).execute ops stream params g memory).grid := by
  simp only [rates, execute, executeRhs]
  cases g.functions.buffers.pair? stage.rhsInput stage.rhsOutput with
  | none => exact .refl g
  | some p => exact g.retains_setBuffer (Role.stageOutput_ne_state _) _

theorem retains_radiation :
    g.Retains ((radiation stage call).execute ops stream params g memory).grid := by
  simp only [radiation, execute, executeRadiation]
  cases g.functions.buffers.pair? stage.rhsInput stage.rhsOutput with
  | none => exact .refl g
  | some p => exact g.retains_setBuffer (Role.stageOutput_ne_state _) _

theorem retains_boundary (h : stage.kernel.finalizes = false) :
    g.Retains ((boundary stage call).execute ops stream params g memory).grid := by
  refine g.retains_setBuffer ?_ _
  rw [Stage.boundaryTarget, h]
  exact Role.stageOutput_ne_state _

theorem retains_kernel (h : stage.kernel.finalizes = false) (work : Launch) :
    g.Retains ((kernel stage call work).execute ops stream params g memory).grid := by
  rcases executeLaunch_cases ops.overflow stage call work params g with ⟨v, -, hrefused⟩ | hran
  · have hg : executeLaunch ops.overflow params call stage.kernel stage.rhsOutput work g = (v, g) :=
      hrefused g.functions.buffers
    simp only [kernel, execute, hg]
    exact .refl g
  · have hg : executeLaunch ops.overflow params call stage.kernel stage.rhsOutput work g
        = (.done, _) :=
      hran g.functions.buffers
    simp only [kernel, execute, hg]
    exact ⟨_, rfl, Buffers.state_mapCells_eq (stage.kernel.state_apply h call.dt)⟩

/-- **No operation of a stage before the last writes the state.** -/
theorem retains_execute (b : Binding α) {blockSize : Nat} {policy : Descriptor α → BoundaryPolicy}
    (h : stage.kernel.finalizes = false) {op : Op α}
    (hop : op = .sync b.descriptor ∨ op ∈ b.row blockSize policy stage call) :
    g.Retains (op.execute ops stream params g memory).grid := by
  rcases hop with rfl | hop
  · exact .refl g
  · rcases b.cases_of_mem_row blockSize policy stage call hop with rfl | rfl | ⟨work, -, rfl⟩ | rfl
    · exact retains_rates ..
    · exact retains_radiation ..
    · exact retains_kernel ops stream params g memory call h work
    · exact retains_boundary ops stream params g memory call h

end Op

namespace Stepper

variable {s : Stepper σ α} {clock : Clock α} {grids : List (Grid α)} {memory : σ} {t : StreamIndex}

/-- A stage that is not the last in number does not complete the state. -/
theorem finalizes_eq_false {stage : Stage α} (h : stage ∈ s.plan.stages)
    (hn : stage.number < s.plan.tableau.stages) : stage.kernel.finalizes = false := by
  obtain ⟨i, hi, rfl⟩ := List.mem_map.mp h
  rw [Tableau.finalizes_stage _ (List.mem_range.mp hi)]
  exact decide_eq_false (Nat.ne_of_lt hn)

theorem finalizes_last : s.last.kernel.finalizes = true := by
  have hpos := s.plan.tableau.stages_pos
  rw [last, Tableau.finalizes_stage _ (Nat.sub_lt hpos Nat.one_pos)]
  exact decide_eq_true (Nat.succ_pred_eq_of_pos hpos)

/-- **Turns of stages before the last leave every state.** -/
theorem exists_retains_after {turns : List (Turn σ α)} {made : List (Request α)}
    (hmade : made ⊆ s.agenda clock grids) (hlt : ∀ r ∈ made, r.number < s.plan.tableau.stages)
    (hturns : turns.map Turn.work ⊆ Request.workFor t made) {w : Worker α} {k : Nat} {g : Grid α}
    (hg : w.grid? k = some g) :
    ∃ g', (w.after s.operators turns).grid? k = some g' ∧ g.Retains g' := by
  refine Worker.exists_grid?_after (R := g.Retains) (fun x hx stream params g₁ hr => ?_) hg
    (.refl g)
  obtain ⟨b, call, hsubmit, -, -⟩ := Request.mem_workFor.mp (hturns (List.mem_map_of_mem hx))
  obtain ⟨stage, hstage, hmem⟩ := List.mem_flatMap.mp (hmade hsubmit)
  have hnumber := hlt _ hsubmit
  rw [number_of_mem_asks hmem] at hnumber
  rcases mem_asks hmem with hr' | ⟨e, he, op, hr', hop⟩
  · cases hr'
  · obtain ⟨rfl, rfl, rfl⟩ := Request.submit.inj hr'
    exact hr.trans (Op.retains_execute s.operators stream params g₁ x.memory _
      (Pool.bind s.streams e) (finalizes_eq_false hstage hnumber) hop)

end Stepper

/-! ## The row of the last stage -/

namespace Stepper

variable (s : Stepper σ α) (clock : Clock α)

/-- **The last kernel applied to every element** of the state of a grid, from the rates and the
total that are there. -/
def Updated (g : Grid α) (b : Buffers α (g.functions.points * g.functions.fields))
    (y : Vector α (g.functions.points * g.functions.fields)) : Prop :=
  ∀ (i : Nat) (hi : i < g.functions.points * g.functions.fields),
    y[i] = ((s.last.kernel.scale clock.dt).apply
      ⟨g.functions.buffers.state[i], (b.get s.last.rhsOutput)[i], b.total[i]⟩).state

variable (grids : List (Grid α)) (memory : σ) (schedule : Schedule) (e : Nat × Grid α)

/-- **An operation on the grid in a place, as it was carried out in a run**: in a turn of the worker
of its stream, which found the grid so, and this memory. -/
def Met (op : Op α) (g : Grid α) (found : σ) : Prop :=
  ∃ w, s.TurnIn clock grids memory schedule (streamFor e.2.id s.streams) w ⟨(e.1, op), found⟩
    ∧ w.status = .done ∧ w.grid? e.1 = some g

/-- **The correction of a grid after the last stage, as it was called in a run**, with `y` in the
state and with what was remembered then. -/
def Corrects (y : Vector α (e.2.functions.points * e.2.functions.fields))
    (r : Reply σ α (e.2.functions.points * e.2.functions.fields)) : Prop :=
  ∃ b found, s.Met clock grids memory schedule e (.boundary s.last (callAt clock s.last))
      (e.2.setBuffers b) found
    ∧ b.state = y
    ∧ r = s.operators.boundary.apply (s.contextAt clock e.2 (s.plan.tableau.stages - 1)) y found

/-- **The stream of a grid holds an error** at the end of a run. -/
def HoldsError (error : StepError) : Prop :=
  ∃ lane ∈ (s.machine clock grids memory schedule).lanes,
    lane.stream.index = streamFor e.2.id s.streams ∧ lane.error? = some error

/-- **What can be left of a grid when the last stage fails** without a crash. -/
inductive Remains : Grid α → Prop where
  /-- The state is as it was. -/
  | untouched {b} (hb : b.state = e.2.functions.buffers.state) : Remains (e.2.setBuffers b)
  /-- The last kernel has updated every element, and the policy asks for no correction. -/
  | advanced {b} (hp : (s.boundaryFor e.2).policy ≠ .extrapolateAndInner)
      (hb : s.Updated clock e.2 b b.state) : Remains (e.2.setBuffers b)
  /-- The last kernel has updated every element, and the correction was done. -/
  | corrected {b y r} (hp : (s.boundaryFor e.2).policy = .extrapolateAndInner)
      (hy : s.Updated clock e.2 b y) (hr : s.Corrects clock grids memory schedule e y r)
      (hdone : r.outcome = .done) (hb : b.state = r.buffer) : Remains (e.2.setBuffers b)
  /-- The last kernel has updated every element, and the correction failed on it; this is the error
  on the grid's stream. -/
  | failed {b y r reason} (hp : (s.boundaryFor e.2).policy = .extrapolateAndInner)
      (hy : s.Updated clock e.2 b y) (hr : s.Corrects clock grids memory schedule e y r)
      (hfailed : r.outcome = .failed reason) (hb : b.state = r.buffer)
      (herror : s.HoldsError clock grids memory schedule e
        (.boundaryFailed e.2.id s.plan.tableau.stages reason)) : Remains (e.2.setBuffers b)

variable {s clock grids memory schedule e}

theorem Remains.of_retains {g : Grid α} (h : e.2.Retains g) :
    s.Remains clock grids memory schedule e g := by
  obtain ⟨b, rfl, hb⟩ := h
  exact .untouched hb

/-- Buffers once the last kernel has run. -/
def completed (s : Stepper σ α) (clock : Clock α) {n : Nat} (b : Buffers α n) : Buffers α n :=
  b.mapCells (s.last.kernel.scale clock.dt).apply s.last.rhsOutput

/-- **The last kernel updates every element of the state**, from rates and a total that it leaves
alone. -/
theorem state_completed {n : Nat} (b : Buffers α n) (i : Nat) (hi : i < n) :
    (s.completed clock b).state[i] = ((s.last.kernel.scale clock.dt).apply
      ⟨b.state[i], ((s.completed clock b).get s.last.rhsOutput)[i],
        (s.completed clock b).total[i]⟩).state := by
  obtain ⟨hstage, htotal⟩ := Buffers.stage_total_mapCells_eq (b := b) (i := s.last.index)
    (s.last.kernel.stage_total_apply finalizes_last clock.dt)
  have hstate := b.state_mapCells (s.last.kernel.scale clock.dt).apply s.last.index
  rw [show (s.completed clock b).get s.last.rhsOutput = _ from hstage,
    show (s.completed clock b).total = _ from htotal,
    show (s.completed clock b).state = _ from hstate, Vector.getElem_ofFn]
  rfl

/-- What the rates and their correction take a grid to has the same state. -/
theorem retains_of_takes_rates {ops : Operators σ α} {stream : StreamIndex}
    {params : Option (Params α)} {met : Op α → Grid α → σ → Prop} {stage : Stage α}
    {call : StageCall α} {c : Bool} {g g' : Grid α} {v : Verdict}
    (ht : Op.Takes ops stream params met
      (.rates stage call :: if c then [.radiation stage call] else []) g v g') : g.Retains g' := by
  refine (ht.invariant (I := g.Retains) (Q := fun _ => True) trivial
    (fun op hop g₁ memory hr => ⟨hr.trans ?_, trivial⟩) (.refl g)).1
  rcases List.mem_cons.mp hop with rfl | hop
  · exact Op.retains_rates ..
  · split at hop
    · obtain rfl := List.mem_singleton.mp hop
      exact Op.retains_radiation ..
    · exact absurd hop List.not_mem_nil

theorem extrapolates_iff (d : Descriptor α) :
    (s.policyOf d).afterStage = true ↔ (s.conditionOf d).policy = .extrapolateAndInner := by
  rw [policyOf]
  cases (s.conditionOf d).policy <;> simp [BoundaryPolicy.afterStage]

/-- The correction after the last stage, carried out. -/
theorem execute_boundary_last (b : Buffers α (e.2.functions.points * e.2.functions.fields))
    (params : Option (Params α)) (found : σ) :
    let r := s.operators.boundary.apply (s.contextAt clock e.2 (s.plan.tableau.stages - 1)) b.state
      found
    (Op.boundary s.last (callAt clock s.last)).execute s.operators (Pool.bind s.streams e).stream
        params (e.2.setBuffers b) found
      = ⟨r.outcome.verdict (.boundaryFailed e.2.id s.plan.tableau.stages),
          e.2.setBuffers (b.set .state r.buffer), r.shared⟩ := by
  have htarget : s.last.boundaryTarget = .state := by rw [Stage.boundaryTarget, finalizes_last]; rfl
  rw [← s.number_last, Op.boundary, htarget]
  rfl

/-- **What the last kernel and the correction after it leave**: all of the state is updated, and the
correction was done or failed. -/
theorem remains_corrected {b : Buffers α (e.2.functions.points * e.2.functions.fields)}
    (hb : b.state = e.2.functions.buffers.state)
    (hp : (s.boundaryFor e.2).policy = .extrapolateAndInner) {params : Option (Params α)}
    {v : Verdict} {g' : Grid α} (hv : v ≠ .crashed)
    (herror : ∀ error, v = .failed error → s.HoldsError clock grids memory schedule e error)
    (ht : Op.Takes s.operators (Pool.bind s.streams e).stream params
      (s.Met clock grids memory schedule e) [.boundary s.last (callAt clock s.last)]
      (e.2.setBuffers (s.completed clock b)) v g') :
    s.Remains clock grids memory schedule e g' := by
  obtain ⟨found, hmet, rfl, rfl⟩ := ht.of_singleton
  obtain ⟨r, hr⟩ : ∃ r, r = s.operators.boundary.apply
      (s.contextAt clock e.2 (s.plan.tableau.stages - 1)) (s.completed clock b).state found :=
    ⟨_, rfl⟩
  rw [execute_boundary_last, ← hr] at hv herror ⊢
  have hcalled : s.Corrects clock grids memory schedule e (s.completed clock b).state r :=
    ⟨s.completed clock b, found, hmet, rfl, hr⟩
  have hupdated : s.Updated clock e.2 ((s.completed clock b).set .state r.buffer)
      (s.completed clock b).state := by
    intro i hi
    rw [Buffers.get_set_of_ne _ _ (show s.last.rhsOutput ≠ .state from Role.stageOutput_ne_state _),
      ← hb]
    exact state_completed b i hi
  cases hout : r.outcome with
  | done => exact .corrected hp hupdated hcalled hout rfl
  | failed reason =>
    exact .failed hp hupdated hcalled hout rfl
      (herror _ (congrArg (Outcome.verdict (.boundaryFailed e.2.id _)) hout))
  | crashed => exact absurd (congrArg (Outcome.verdict (.boundaryFailed e.2.id _)) hout) hv

/-- **The last kernel runs on every element or not at all.** -/
theorem remains_of_takes_kernel {b : Buffers α (e.2.functions.points * e.2.functions.fields)}
    (hb : b.state = e.2.functions.buffers.state) {work : Launch}
    (hwork : (Pool.bind s.streams e).launch s.blockSize s.last = .ok work) {v : Verdict}
    {g' : Grid α} (hv : v ≠ .crashed)
    (herror : ∀ error, v = .failed error → s.HoldsError clock grids memory schedule e error)
    (ht : Op.Takes s.operators (Pool.bind s.streams e).stream
      (some (.ofDescriptor (Pool.bind s.streams e).descriptor))
      (s.Met clock grids memory schedule e)
      (.kernel s.last (callAt clock s.last) work
        :: if (s.policyOf e.2.descriptor).afterStage then [.boundary s.last (callAt clock s.last)]
          else []) (e.2.setBuffers b) v g') : s.Remains clock grids memory schedule e g' := by
  have hexecute := fun found : σ => congrArg
    (fun r : Verdict × Grid α => Executed.mk r.1 r.2 found)
    (Binding.executeLaunch_eq hwork (Pool.fits_bind ⟨b, rfl⟩ _) s.operators.overflow
      (callAt clock s.last))
  by_cases hfit : work.total = e.2.functions.points * e.2.functions.fields
  · simp only [show (e.2.setBuffers b).functions.points * (e.2.setBuffers b).functions.fields
      = e.2.functions.points * e.2.functions.fields from rfl, if_pos hfit] at hexecute
    cases ht with
    | stop _ hd => exact absurd (congrArg Executed.verdict (hexecute _)) hd
    | done _ hd ht =>
      rw [show Op.execute _ _ _ _ _ _ = _ from hexecute _] at ht
      by_cases hp : (s.policyOf e.2.descriptor).afterStage = true
      · rw [if_pos hp] at ht
        exact remains_corrected hb ((extrapolates_iff _).mp hp) hv herror ht
      · rw [if_neg hp] at ht
        obtain ⟨-, rfl⟩ := ht.of_nil
        refine .advanced (fun h => hp ((extrapolates_iff _).mpr h)) fun i hi => ?_
        rw [← hb]
        exact state_completed b i hi
  · simp only [show (e.2.setBuffers b).functions.points * (e.2.setBuffers b).functions.fields
      = e.2.functions.points * e.2.functions.fields from rfl, if_neg hfit] at hexecute
    cases ht with
    | stop _ hd =>
      rw [show Op.execute _ _ _ _ _ _ = _ from hexecute _]
      exact .untouched hb
    | done _ hd _ =>
      rw [show Op.execute _ _ _ _ _ _ = _ from hexecute _] at hd
      cases hd

/-- **The row of the last stage leaves the state, or updates all of it.** -/
theorem remains_of_takes {g g' : Grid α} (hg : e.2.Retains g) {v : Verdict} (hv : v ≠ .crashed)
    (herror : ∀ error, v = .failed error → s.HoldsError clock grids memory schedule e error)
    (ht : Op.Takes s.operators (Pool.bind s.streams e).stream
      (some (.ofDescriptor (Pool.bind s.streams e).descriptor))
      (s.Met clock grids memory schedule e)
      ((Pool.bind s.streams e).row s.blockSize s.policyOf s.last (callAt clock s.last)) g v g') :
    s.Remains clock grids memory schedule e g' := by
  rw [Binding.row, ← List.cons_append] at ht
  rcases ht.append_cases with ⟨-, ht⟩ | ⟨g₁, ht, hkernel⟩
  · exact .of_retains (hg.trans (retains_of_takes_rates ht))
  · obtain ⟨b, rfl, hb⟩ := hg.trans (retains_of_takes_rates ht)
    cases hlaunch : (Pool.bind s.streams e).launch s.blockSize s.last with
    | error error =>
      rw [hlaunch] at hkernel
      obtain ⟨-, rfl⟩ := hkernel.of_nil
      exact .untouched hb
    | ok work =>
      rw [hlaunch] at hkernel
      exact remains_of_takes_kernel hb hlaunch hv herror hkernel

/-! ## A step that fails -/

variable {m : Machine σ α} {before current : List (Request α)} {n : Nat}

/-- **A step that fails before its last stage leaves every state.** -/
theorem Ending.forall₂_retains (h : s.Ending clock grids memory before current m)
    (hstops : s.Stops clock grids memory m (before ++ current) n) (hn : n < s.plan.tableau.stages) :
    List.Forall₂ Grid.Retains grids m.pool.grids := by
  refine Pool.forall₂_grids h.bindings fun e he => ?_
  obtain ⟨lane, -, past, turns, hrec, hgrid⟩ := h.exists_turns he
  have hwork := hrec.isPrefix.subset
  rw [← Request.workFor_append] at hwork
  rw [hgrid]
  exact exists_retains_after
    (h.follows.answers.isPrefix.trans (s.requests_prefix_agenda clock grids memory)).subset
    (fun r hr => Nat.lt_of_le_of_lt (hstops.number_le r hr) hn) hwork (Worker.grid?_fresh he rfl)

/-- The turns of a step are met by the grids they are for. -/
theorem meets_of_recalls {lane : Lane α} {sent sent' : List (Nat × Op α)}
    {past turns : List (Turn σ α)} {w : Worker α}
    (h : lane.Recalls s.operators w sent sent' past turns
      (s.TurnIn clock grids memory schedule (Pool.bind s.streams e).stream)) :
    w.Meets s.operators e.1 (s.Met clock grids memory schedule e) (past ++ turns) := by
  rintro l ⟨⟨slot, op⟩, found⟩ l' hsplit hs rfl g hg
  exact ⟨_, h.each hsplit, hs, hg⟩

/-- **In the last stage, what is left of a grid is what its row left.** -/
theorem exists_remains_after (he : e ∈ Pool.slots grids) {bs : List (Binding α)}
    (hbs : bs <+: (Pool.slots grids).map (Pool.bind s.streams)) {w : Worker α}
    (hw : w.Holds (s.places grids (Pool.bind s.streams e).stream))
    (hstream : w.stream = (Pool.bind s.streams e).stream)
    {g : Grid α} (hg : w.grid? e.1 = some g) (hretains : e.2.Retains g)
    {turns : List (Turn σ α)}
    (hturns : turns.map Turn.work = (bs.filter (·.stream = (Pool.bind s.streams e).stream)).flatMap
      (Binding.round s.blockSize s.policyOf s.last (callAt clock s.last)))
    (hmeets : w.Meets s.operators e.1 (s.Met clock grids memory schedule e) turns)
    (hv : (w.after s.operators turns).status ≠ .crashed)
    (herror : ∀ error, (w.after s.operators turns).status = .failed error →
      s.HoldsError clock grids memory schedule e error) :
    ∃ g', (w.after s.operators turns).grid? e.1 = some g'
      ∧ s.Remains clock grids memory schedule e g' := by
  have hsub : bs.filter (·.stream = (Pool.bind s.streams e).stream)
      ⊆ s.places grids (Pool.bind s.streams e).stream := (hbs.sublist.filter _).subset
  have hnodup :
      ((bs.filter (·.stream = (Pool.bind s.streams e).stream)).map Binding.slot).Nodup := by
    have hslots := Pool.nodup_slots grids
    rw [show (Pool.slots grids).map Prod.fst
      = ((Pool.slots grids).map (Pool.bind s.streams)).map Binding.slot by rw [List.map_map]; rfl]
      at hslots
    exact ((List.filter_sublist.trans hbs.sublist).map _).nodup hslots
  obtain ⟨g', hg', rfl | ⟨b, hb, hslot, v, ht, hstatus⟩⟩ := Worker.grid?_after_rounds hnodup
    (fun b hb => hw b (hsub hb)) hturns hmeets hg
  · exact ⟨g', hg', .of_retains hretains⟩
  · obtain ⟨e', he', rfl, -⟩ := mem_places.mp (hsub hb)
    obtain rfl := Pool.eq_of_mem_slots he he' hslot
    rw [hstream] at ht
    refine ⟨g', hg', remains_of_takes hretains (fun hcrash => hv ?_) (fun error hfail => ?_) ht⟩
    · rw [hstatus (by rw [hcrash]; simp), hcrash]
    · exact herror error (by rw [hstatus (by rw [hfail]; simp), hfail])

/-- **In the last stage, what is left of each grid is what its row left**, if no stream is lost. -/
theorem Ending.forall₂_remains
    (h : s.Ending clock grids memory before current (s.machine clock grids memory schedule))
    (hfollows : (s.machine clock grids memory schedule).Follows s.operators
      (Worker.fresh s.streams grids) (s.home grids) (s.requests clock grids memory) before current
      (s.TurnIn clock grids memory schedule))
    (hlost : ∀ lane ∈ (s.machine clock grids memory schedule).lanes,
      lane.stream.worker.lost = false)
    (hstops : s.Stops clock grids memory (s.machine clock grids memory schedule)
      (before ++ current) n) (hn : n = s.plan.tableau.stages) :
    List.Forall₂ (s.Remains clock grids memory schedule) (Pool.slots grids)
      (s.machine clock grids memory schedule).pool.grids := by
  obtain ⟨bs, hbs, hmade⟩ := hstops.exists_rows hn hlost
  refine Pool.forall₂_slots_grids h.bindings fun e he => ?_
  obtain ⟨lane, hmem, hi, past, turns, hrec, hgrid⟩ := h.exists_turns_of_follows hfollows he
  -- the turns of the earlier stages, and those of the rows of the last
  have hwork := hrec.work_eq (h.queue_eq lane hmem) (hlost lane hmem)
  rw [← Request.workFor_append, hmade, Request.workFor_append, Request.workFor_flatMap_asks]
    at hwork
  obtain ⟨first, rest, hturns, hfirst, hrest⟩ := List.map_eq_append_iff.mp hwork
  obtain ⟨g, hg, hretains⟩ := exists_retains_after earlier_subset_agenda
    (fun _ => number_lt_of_mem_earlier) (fun x hx => hfirst ▸ hx) (Worker.grid?_fresh he rfl)
  have hl := hrec.lost_eq.symm.trans (hlost lane hmem)
  have herror := hrec.error?_eq
  have hmeets := meets_of_recalls hrec
  rw [hturns, Worker.after_append] at hl herror
  rw [hturns] at hmeets
  rw [hgrid, hturns, Worker.after_append]
  refine exists_remains_after he hbs (holds_fresh.after s.operators first) (Worker.stream_after ..)
    hg hretains hrest hmeets.append.2 (fun hcrash => ?_) fun error hfail => ⟨lane, hmem, hi, ?_⟩
  · cases hl.symm.trans (Worker.status_eq_crashed.mp hcrash)
  · rw [herror]
    exact (Worker.status_eq_failed.mp hfail).2

/-- A step that ends with an error ends with the grids of its machine, which stopped in the stage
the error names. -/
theorem Ending.of_conclude (h : s.Ending clock grids memory before current m) {e : StepError}
    (he : (s.conclude clock grids memory m.results m.pool).result = .error e) :
    (s.conclude clock grids memory m.results m.pool).grids = m.pool.grids
      ∧ ∃ n, e.stage? = some n ∧ s.Stops clock grids memory m (before ++ current) n := by
  rcases s.conclude_cases clock grids memory m.results m.pool with
    ⟨p, -, hend⟩ | ⟨e', p, hr, hend⟩ <;> rw [hend] at he
  · cases he
  · obtain rfl := Except.error.inj he
    rw [hend]
    exact ⟨rfl, h.exists_stops hr⟩

/-- **What a failed step can have done to the states.**  A poisoned stepper fails without touching
the grids.  Otherwise the step fails in a stage.  If that is not the last, every state is as it was,
whatever went wrong, in every schedule and with any collaborators.  If it is the last and no call of
a collaborator has crashed in the run, each state is as it was; or the last kernel has updated all
of it, and the correction at the boundary has been done if the policy asks for one; or the last
kernel has updated all of it, and the grid's own correction failed on it in this run, left what is
there and is the error on the grid's stream. -/
theorem states_of_failed_step {a : Advance σ α}
    (h : s.stepUnder clock grids memory schedule = some a) {error : StepError}
    (he : a.result = .error error) :
    (error = .poisoned ∧ a.grids = grids)
      ∨ ∃ n, error.stage? = some n ∧ n ≤ s.plan.tableau.stages
        ∧ (n < s.plan.tableau.stages → a.grids.map Grid.state = grids.map Grid.state)
        ∧ (n = s.plan.tableau.stages → (∀ t, ¬ s.CrashesOn clock grids memory schedule t) →
          List.Forall₂ (s.Remains clock grids memory schedule) (Pool.slots grids) a.grids) := by
  by_cases hp : s.poisoned = true
  · rw [stepUnder_of_poisoned hp] at h
    rw [← Option.some.inj h] at he ⊢
    exact .inl ⟨(Except.error.inj he).symm, rfl⟩
  · rw [stepUnder_eq hp, Option.ite_none_right_eq_some] at h
    obtain ⟨hfinished, ha⟩ := h
    obtain rfl := Option.some.inj ha
    obtain ⟨before, current, hfollows⟩ := s.follows_machine_turns clock grids memory schedule
    have hm := ending_of_follows (hfollows.imp fun _ _ _ _ => trivial) hfinished
    obtain ⟨hgrids, n, hn, hstops⟩ := hm.of_conclude he
    obtain ⟨stage, hstage, hnumber⟩ := hstops.exists_stage
    rw [hgrids]
    refine .inr ⟨n, hn, hnumber ▸ number_le_stages hstage, fun hlt => ?_, fun hlast hc => ?_⟩
    · have hstates := (hm.forall₂_retains hstops hlt).imp fun _ _ hr => hr.state_eq
      exact List.forall₂_eq_eq_eq ▸ List.forall₂_map_left_iff.mpr
        (List.forall₂_map_right_iff.mpr hstates.flip)
    · refine hm.forall₂_remains hfollows (fun lane hmem => ?_) hstops hlast
      refine Bool.eq_false_iff.mpr fun hl => hc lane.stream.index ?_
      exact (lost_machine_iff (Bool.eq_false_iff.mpr hp)).mp ⟨lane, hmem, rfl, hl⟩

/-- The correction of grid 3 marks its buffer and then fails.  In the second stage this leaves all
states; in the third, grid 0 is advanced, grid 3 is marked, and grid 5, which waits behind it on its
stream, is as it was. -/
theorem states_of_failed_step_heunThird :
    let reason : EvalError := .executionFailed "no ghost values"
    let rule : Nat → FaultRule Rat := fun stage =>
      ⟨some 3, some stage, some "apply", .failAfter reason⟩
    let s : Nat → Stepper BoundaryTally Rat := fun stage =>
      .heunThird (.affine 1 2 3) (.faulty [rule stage] (.counting (some 9)))
    let clock : Clock Rat := ⟨0, 1, 0⟩
    let grids := [Grid.pair 0 .radiation 1 2, Grid.pair 3 .extrapolation 3 4,
      Grid.pair 5 .extrapolation 5 6]
    let a := fun stage => (s stage).step clock grids {}
    ((a 2).result = .error (.boundaryFailed 3 2 reason)
        ∧ (a 2).grids.map Grid.state = grids.map Grid.state)
      ∧ (a 3).result = .error (.boundaryFailed 3 3 reason)
        ∧ (a 3).grids.map Grid.state = [#[10, 35 / 3], #[9, 17], #[5, 6]]
        ∧ ∃ schedule, (s 3).stepUnder clock grids {} schedule = some (a 3)
          ∧ (∀ t, ¬ (s 3).CrashesOn clock grids {} schedule t)
          ∧ List.Forall₂ ((s 3).Remains clock grids {} schedule) (Pool.slots grids)
            (a 3).grids := by
  intro reason rule s clock grids a
  have hresults : ((a 2).result.map fun _ => ()) = .error (.boundaryFailed 3 2 reason)
      ∧ ((a 3).result.map fun _ => ()) = .error (.boundaryFailed 3 3 reason) := by decide +kernel
  have hstates : (a 3).grids.map Grid.state = [#[10, 35 / 3], #[9, 17], #[5, 6]] := by
    decide +kernel
  have hr₂ := Advance.result_of_map hresults.1
  have hr₃ := Advance.result_of_map hresults.2
  obtain ⟨schedule₂, h₂⟩ := (s 2).ends_step clock grids {}
  obtain ⟨schedule₃, h₃⟩ := (s 3).ends_step clock grids {}
  have hc : ∀ t, ¬ (s 3).CrashesOn clock grids {} schedule₃ t := fun t => not_crashesOn fun g _ =>
    { rhs := fun _ _ _ _ _ _ => by simp [s, heunThird, Rhs.affine]
      apply := fun ctx _ _ values tally => FaultRule.guard_ne_crashed (by simp [rule]) ctx .apply
        values tally (by simp [Enforcer.counting])
      radiation := fun ctx _ _ _ rates tally => FaultRule.guard_ne_crashed (by simp [rule]) ctx
        .radiation rates tally (by simp [Enforcer.counting]) }
  obtain ⟨herror, -⟩ | ⟨n, hn, -, hearly, -⟩ := states_of_failed_step h₂ hr₂
  · cases herror
  obtain ⟨herror, -⟩ | ⟨n', hn', -, -, hlast⟩ := states_of_failed_step h₃ hr₃
  · cases herror
  obtain rfl := Option.some.inj hn
  obtain rfl := Option.some.inj hn'
  exact ⟨⟨hr₂, hearly (by decide)⟩, hr₃, hstates, schedule₃, h₃, hc, hlast rfl hc⟩

end Stepper

end MethodOfLines
