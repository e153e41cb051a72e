import MethodOfLines.Proofs.Restart
import MethodOfLines.Proofs.Stages

/-!
# Proofs/Success — when every call succeeds, so does the step

Collaborators **succeed on** a grid if every call they can be made on its buffers is done.  If they
succeed on all grids of a list, and every launch covers the buffers of its grid, then every row is
done and a step over the list succeeds, under every schedule (`Stepper.Ends.of_succeeds`,
`Run.Continues.of_succeeds`).  The other way round, a step that succeeds has launched on every grid
(`Stepper.Ends.not_refuses`).

What a step that succeeds counts is what it asks for: `Stepper.metrics_of_run_ok`.
-/

namespace MethodOfLines

variable {σ α : Type} [Scalar α]

/-! ## Rows that are done -/

omit [Scalar α] in
/-- **Hooks that succeed on a grid**, whatever its buffers hold. -/
structure Enforcer.SucceedsOn (boundary : Enforcer σ α) (g : Grid α) : Prop where
  radiation : ∀ ctx : Context α, ctx.grid = g.descriptor → ctx.fields = g.functions.fields →
    ∀ (x rates : Vector α (g.functions.points * g.functions.fields)) (memory : σ),
      (boundary.applyRadiation ctx x rates memory).outcome = .done
  apply : ∀ ctx : Context α, ctx.grid = g.descriptor → ctx.fields = g.functions.fields →
    ∀ (v : Vector α (g.functions.points * g.functions.fields)) (memory : σ),
      (boundary.apply ctx v memory).outcome = .done

omit [Scalar α] in
theorem Enforcer.SucceedsOn.refills {boundary : Enforcer σ α} {g g' : Grid α}
    (h : boundary.SucceedsOn g) (hg : g.Refills g') : boundary.SucceedsOn g' := by
  obtain ⟨buffers, rfl⟩ := hg
  exact ⟨h.radiation, h.apply⟩

/-- **Collaborators that succeed on a grid**, whatever its buffers hold.  Rates that are searched
for values that are not finite have none. -/
structure Operators.SucceedsOn (ops : Operators σ α) (g : Grid α) : Prop where
  rhs : ∀ ctx : Context α, ctx.grid = g.descriptor → ctx.fields = g.functions.fields →
    ∀ (x out : Vector α (g.functions.points * g.functions.fields)) (memory : σ),
      (ops.rhs.evaluate ctx x out memory).outcome = .done
        ∧ (ops.checkFinite = true → MethodOfLines.checkFinite ctx.points
            (ops.rhs.evaluate ctx x out memory).buffer.toArray = .ok ())
  hooks : ops.boundary.SucceedsOn g

theorem Operators.SucceedsOn.refills {ops : Operators σ α} {g g' : Grid α} (h : ops.SucceedsOn g)
    (hg : g.Refills g') : ops.SucceedsOn g' := by
  have hhooks := h.hooks.refills hg
  obtain ⟨buffers, rfl⟩ := hg
  exact ⟨h.rhs, hhooks⟩

/-- **All that is not an evaluation is done in a row**, if the hooks succeed on the grid and its
buffers fit its shape. -/
theorem Binding.verdict_of_hooks {ops : Operators σ α} {b : Binding α} {g : Grid α}
    (hs : ops.boundary.SucceedsOn g) (hsize : g.functions.points = g.descriptor.points)
    (hg : b.Fits g) {blockSize : Nat} {policy : Descriptor α → BoundaryPolicy} {stage : Stage α}
    {call : StageCall α} {op : Op α} (hop : op ∈ b.row blockSize policy stage call)
    (hr : op.isRates = false) (memory : σ) :
    (op.execute ops b.stream (some (.ofDescriptor b.descriptor)) g memory).verdict = .done := by
  rcases cases_of_mem_row blockSize policy stage call hop with
    rfl | rfl | ⟨work, hwork, rfl⟩ | rfl
  · cases hr
  · have hdone := hs.radiation (Op.context b.stream call g) rfl rfl
      (g.functions.buffers.get stage.rhsInput) (g.functions.buffers.get stage.rhsOutput) memory
    simp only [Op.radiation, Op.execute, Op.executeRadiation,
      g.functions.buffers.pair?_of_ne stage.rhsInput_ne_rhsOutput, hdone]
    rfl
  · obtain ⟨htotal, -⟩ := Word.mul?_eq_some.mp (mul?_of_launch hwork)
    rw [← hg.descriptor, ← hg.fields, ← hsize] at htotal
    simp only [Op.kernel, Op.execute, executeLaunch_eq hwork hg, if_pos htotal.symm]
  · have hdone := hs.apply (Op.context b.stream call g) rfl rfl
      (g.functions.buffer stage.boundaryTarget) memory
    simp only [Op.boundary, Op.execute, Op.executeBoundary, hdone]
    rfl

/-- **Every operation of a row is done**, if the collaborators succeed on the grid and its buffers
fit its shape. -/
theorem Binding.verdict_of_mem_row {ops : Operators σ α} {b : Binding α} {g : Grid α}
    (hs : ops.SucceedsOn g) (hsize : g.functions.points = g.descriptor.points) (hg : b.Fits g)
    {blockSize : Nat} {policy : Descriptor α → BoundaryPolicy} {stage : Stage α}
    {call : StageCall α} {op : Op α} (hop : op ∈ b.row blockSize policy stage call) (memory : σ) :
    (op.execute ops b.stream (some (.ofDescriptor b.descriptor)) g memory).verdict = .done := by
  cases hr : op.isRates with
  | false => exact verdict_of_hooks hs.hooks hsize hg hop hr memory
  | true =>
    obtain rfl := eq_rates_of_mem_row blockSize policy stage call hop hr
    obtain ⟨hdone, hfinite⟩ := hs.rhs (Op.context b.stream call g) rfl rfl
      (g.functions.buffers.get stage.rhsInput) (g.functions.buffers.get stage.rhsOutput) memory
    simp only [Op.rates, Op.execute, Op.executeRhs,
      g.functions.buffers.pair?_of_ne stage.rhsInput_ne_rhsOutput, hdone]
    cases hc : ops.checkFinite with
    | false => rfl
    | true => simp only [hfinite hc]

/-- A kernel that is done covers the buffers. -/
theorem Binding.total_of_kernel_done {ops : Operators σ α} {b : Binding α} {g : Grid α}
    {blockSize : Nat} {stage : Stage α} {work : Launch} (h : b.launch blockSize stage = .ok work)
    (hg : b.Fits g) {call : StageCall α} {memory : σ}
    (hd : ((Op.kernel stage call work).execute ops b.stream (some (.ofDescriptor b.descriptor)) g
      memory).verdict = .done) :
    work.total = g.functions.points * g.functions.fields := by
  simp only [Op.kernel, Op.execute, executeLaunch_eq h hg] at hd
  split at hd
  · assumption
  · cases hd

/-! ## Steps that succeed -/

namespace Stepper

variable {s : Stepper σ α} {clock : Clock α} {grids : List (Grid α)} {memory : σ} {a : Advance σ α}

/-- **The commands of a step succeed**, if the collaborators succeed on every grid, the buffers fit
and no launch is refused. -/
theorem exists_run_of_succeed (hs : ∀ g ∈ grids, s.operators.SucceedsOn g)
    (hsize : ∀ g ∈ grids, g.functions.points = g.descriptor.points)
    (hl : ∀ g ∈ grids, ¬ s.Refuses g) (clock : Clock α) (memory : σ) :
    ∃ p, Progress.run s.operators (s.plan.stages.flatMap (s.stageCommands clock grids))
      (s.begin clock grids memory) = (.ok (), p) := by
  have hmem : ∀ e ∈ Pool.slots grids, e.2 ∈ grids := fun e he =>
    Pool.mem_of_mem_slots he
  refine exists_run_stages_ok (fun stage _ e he => refusal?_eq_none (hl e.2 (hmem e he)) stage)
    (fun stage _ e he g hg memory' => ?_) (s.ready_begin clock grids memory) fun e _ => .refl e.2
  refine (Op.executeAll_invariant s.operators _ _ (I := e.2.Refills) (Q := (· = .done)) rfl
    (fun op hop g memory hg => ⟨hg.trans (Op.refills_execute ..), ?_⟩) g memory' hg).2
  have hsucceed := (hs e.2 (hmem e he)).refills hg
  have hsize := hsize e.2 (hmem e he)
  obtain ⟨buffers, rfl⟩ := hg
  exact Binding.verdict_of_mem_row hsucceed hsize ⟨rfl, rfl⟩ hop memory

/-- **Where the commands of stages succeed, the pool is ready again**, with grids of the same
shapes. -/
theorem exists_ready_of_run_ok (stages : List (Stage α)) :
    ∀ {p p' : Progress σ α} {current : Nat × Grid α → Grid α},
      p.pool.Ready s.streams (Pool.slots grids) current →
      (∀ e ∈ Pool.slots grids, e.2.Refills (current e)) →
      Progress.run s.operators (stages.flatMap (s.stageCommands clock grids)) p = (.ok (), p') →
      ∃ current', p'.pool.Ready s.streams (Pool.slots grids) current'
        ∧ p'.pool.bindings = p.pool.bindings
        ∧ ∀ e ∈ Pool.slots grids, e.2.Refills (current' e) := by
  induction stages with
  | nil =>
    intro p p' current hr hrefills h
    obtain ⟨-, rfl⟩ := Prod.mk.inj h
    exact ⟨current, hr, rfl, hrefills⟩
  | cons stage stages ih =>
    intro p p' current hr hrefills h
    obtain ⟨q, hq, hrest⟩ := Progress.run_append_ok _ h
    obtain ⟨μ, -, hbind, hready⟩ := Progress.ready_of_run_forStage hr (Pool.nodup_slots grids) hq
    obtain ⟨current', hready', hbind', hrefills'⟩ := ih hready (fun e he =>
      (hrefills e he).trans (Binding.refills_outcome s.operators _ _ _ _)) hrest
    exact ⟨current', hready', hbind'.trans hbind, hrefills'⟩

/-- **A step whose commands succeed one after the other ends in that way under every schedule.** -/
theorem Ends.agrees_of_run_ok (h : s.Ends clock grids memory a) (hf : s.operators.Functional)
    {p : Progress σ α}
    (hrun : Progress.run s.operators (s.plan.stages.flatMap (s.stageCommands clock grids))
      (s.begin clock grids memory) = (.ok (), p)) : a.Agrees (s.step clock grids memory) := by
  obtain ⟨schedule, h⟩ := h
  refine agrees_of_kept hf (fun i hcrashed => ?_) h
  have hreplay : Progress.run s.operators (s.plan.stages.flatMap (s.stageCommands clock grids))
      (s.begin clock grids memory) = _ := Progress.run_eq_replay s.operators _
    (s.begin clock grids memory) (Prod.eta (Pool.serveAll s.operators .stop
      (s.requests clock grids memory) (Pool.spawn s.streams grids memory))).symm
  have hpool := congrArg (·.2.pool) (hrun.symm.trans hreplay)
  obtain ⟨_, hready, -, -⟩ := exists_ready_of_run_ok s.plan.stages
    (s.ready_begin clock grids memory) (fun e _ => .refl e.2) hrun
  have hdone := hready.done i
  rw [hpool] at hdone
  cases hcrashed.symm.trans hdone

/-- **A step that succeeds has launched on every grid.** -/
theorem Ends.not_refuses (h : s.Ends clock grids memory a) {report : Report α}
    (hok : a.result = .ok report) : s.poisoned = false ∧ ∀ g ∈ grids, ¬ s.Refuses g := by
  by_cases hp : s.poisoned = true
  · rw [h.of_poisoned hp] at hok
    cases hok
  · obtain ⟨schedule, hfinished, rfl⟩ := h.exists_machine hp
    obtain ⟨before, current, hending⟩ := exists_ending_machine hfinished
    exact ⟨Bool.not_eq_true _ ▸ hp, (hending.agenda_of_ok hok).2⟩

/-- **In a step that succeeds every operation of every row was done**, on some contents of its grid
and under the grid's own parameters. -/
theorem Ending.exists_done_of_ok {before current : List (Request α)} {m : Machine σ α}
    (h : s.Ending clock grids memory before current m) {report : Report α}
    (hok : (s.conclude clock grids memory m.results m.pool).result = .ok report)
    {e : Nat × Grid α} (he : e ∈ Pool.slots grids) {stage : Stage α}
    (hstage : stage ∈ s.plan.stages) {op : Op α}
    (hop : op ∈ (Pool.bind s.streams e).row s.blockSize s.policyOf stage (callAt clock stage)) :
    ∃ g memory', e.2.Refills g
      ∧ (op.execute s.operators (Pool.bind s.streams e).stream
        (some (.ofDescriptor e.2.descriptor)) g memory').verdict = .done := by
  obtain ⟨hmade, -⟩ := h.agenda_of_ok hok
  have hcurrent := h.current_of_ok hmade
  obtain ⟨lane, -, past, _, hrec, -⟩ := h.exists_turns he
  rw [hcurrent, List.append_nil] at hmade
  have hpast := hrec.elapsed
  rw [hmade] at hpast
  -- the turn of the operation, after which nothing is wrong
  have hmem : (e.1, op) ∈ past.map Turn.work := by
    rw [hpast]
    refine Request.mem_workFor.mpr ⟨Pool.bind s.streams e, callAt clock stage, ?_, rfl, rfl⟩
    refine List.mem_flatMap.mpr ⟨stage, hstage, List.mem_append_left _ (List.mem_flatMap.mpr
      ⟨_, List.mem_map_of_mem he, List.mem_map_of_mem (List.mem_cons_of_mem _ hop)⟩)⟩
  obtain ⟨turn, hturn, hwork⟩ := List.mem_map.mp hmem
  obtain ⟨first, rest, rfl⟩ := List.append_of_mem hturn
  obtain ⟨hbefore, hafter⟩ := Worker.status_of_turn_mem _ hrec.clean
  have hprefix : first.map Turn.work ++ [(e.1, op)]
      <+: Request.workFor (Pool.bind s.streams e).stream (s.agenda clock grids) := by
    rw [← hpast, List.map_append, List.map_cons, hwork]
    exact ⟨rest.map Turn.work, by rw [List.append_assoc, List.singleton_append]⟩
  obtain ⟨_, -, e', he', -, hslot, ⟨g, hg, hrefills⟩, hplace⟩ :=
    exists_place_of_next hprefix hbefore
  obtain rfl := Pool.eq_of_mem_slots he he' hslot.symm
  have hiswork := Binding.isWork_of_mem_row _ _ _ _ hop
  have hparams := (hplace.resolve_left fun hsync => hiswork _ hsync).2
  refine ⟨g, turn.memory, hrefills, ?_⟩
  rw [Worker.turn, hwork, Worker.perform_work _ hbefore hg hiswork, Worker.status_settle hbefore,
    Worker.stream_after, hparams] at hafter
  exact hafter

/-- **In a step that succeeds the buffers of every grid fit its shape**, or its kernel would have
been refused. -/
theorem Ends.points_eq (h : s.Ends clock grids memory a) {report : Report α}
    (hok : a.result = .ok report) : ∀ g ∈ grids, g.functions.points = g.descriptor.points := by
  intro g hg
  obtain ⟨hp, hl⟩ := h.not_refuses hok
  obtain ⟨schedule, hfinished, rfl⟩ := h.exists_machine (by simp [hp])
  obtain ⟨before, current, hending⟩ := exists_ending_machine hfinished
  obtain ⟨i, hi⟩ := List.mem_iff_getElem?.mp hg
  have he : (i, g) ∈ Pool.slots grids := Pool.mem_slots.mpr hi
  obtain ⟨stages, hstages⟩ := s.exists_stages_eq_cons
  obtain ⟨work, hforGrid⟩ : ∃ work,
      Launch.forGrid g.descriptor g.functions.fields s.blockSize = .ok work := by
    cases hforGrid : Launch.forGrid g.descriptor g.functions.fields s.blockSize with
    | ok work => exact ⟨work, rfl⟩
    | error fault => exact absurd ⟨fault, hforGrid⟩ (hl g hg)
  have hwork := launch_bind (e := (i, g)) hforGrid (s.plan.tableau.stage 0)
  have hop : Op.kernel (s.plan.tableau.stage 0) (callAt clock (s.plan.tableau.stage 0)) work
      ∈ (Pool.bind s.streams (i, g)).row s.blockSize s.policyOf (s.plan.tableau.stage 0)
        (callAt clock (s.plan.tableau.stage 0)) := by
    simp [Binding.row, hwork]
  obtain ⟨_, memory', ⟨buffers, rfl⟩, hdone⟩ := hending.exists_done_of_ok hok he
    (hstages ▸ List.mem_cons_self) hop
  have htotal : work.total = g.functions.points * g.functions.fields :=
    Binding.total_of_kernel_done (g := g.setBuffers buffers) hwork ⟨rfl, rfl⟩ hdone
  obtain ⟨hmul, -⟩ := Word.mul?_eq_some.mp (Launch.mul?_of_forGrid hforGrid)
  exact Nat.eq_of_mul_eq_mul_right g.functions.fields_pos (htotal.symm.trans hmul.symm)

end Stepper

/-! ## What a step counts -/

namespace Metrics

/-- The counts with some stages, rows, corrections of values and corrections of rates added. -/
def plus (m : Metrics) (stages rows values rates : Nat) : Metrics :=
  { m with
    stages := m.stages + stages
    launches := m.launches + rows
    rhsEvaluations := m.rhsEvaluations + rows
    boundaryApplications := m.boundaryApplications + values
    radiationApplications := m.radiationApplications + rates }

theorem plus_plus (m : Metrics) (a b c d a' b' c' d' : Nat) :
    (m.plus a b c d).plus a' b' c' d' = m.plus (a + a') (b + b') (c + c') (d + d') := by
  simp only [plus, Nat.add_assoc]

variable {blockSize : Nat} {policy : Descriptor α → BoundaryPolicy} {stage : Stage α}
  {call : StageCall α}

omit [Scalar α] in
/-- What the requests for one grid are counted as. -/
theorem foldl_count_asks (m : Metrics) {b : Binding α} (h : b.refusal? blockSize stage = none) :
    (b.asks blockSize policy stage call).foldl count m
      = m.plus 0 1 (if (policy b.descriptor).afterStage then 1 else 0)
        (if (policy b.descriptor).afterRhs then 1 else 0) := by
  obtain ⟨work, hwork⟩ : ∃ work, b.launch blockSize stage = .ok work := by
    unfold Binding.refusal? at h
    split at h
    · cases h
    · exact ⟨_, ‹_›⟩
  rw [Binding.asks, Binding.row, hwork]
  cases (policy b.descriptor).afterRhs <;> cases (policy b.descriptor).afterStage <;> rfl

omit [Scalar α] in
/-- What the requests for some grids are counted as. -/
theorem foldl_count_flatMap_asks {bs : List (Binding α)} :
    ∀ (m : Metrics), (∀ b ∈ bs, b.refusal? blockSize stage = none) →
      (bs.flatMap (Binding.asks blockSize policy stage call)).foldl count m
        = m.plus 0 bs.length (bs.countP fun b => (policy b.descriptor).afterStage)
          (bs.countP fun b => (policy b.descriptor).afterRhs) := by
  induction bs with
  | nil => exact fun m _ => rfl
  | cons b bs ih =>
    intro m h
    obtain ⟨hb, hbs⟩ := List.forall_mem_cons.mp h
    rw [List.flatMap_cons, List.foldl_append, foldl_count_asks m hb, ih _ hbs, plus_plus,
      List.countP_cons, List.countP_cons, List.length_cons, Nat.add_comm 1,
      Nat.add_comm (List.countP _ bs), Nat.add_comm (List.countP _ bs)]

end Metrics

/-- **What commands that succeed count is what they ask for.** -/
theorem Progress.metrics_of_run_ok (ops : Operators σ α) {commands : List (Command α)} :
    ∀ {p p' : Progress σ α}, run ops commands p = (.ok (), p') →
      p'.metrics = (Command.requests commands).foldl Metrics.count p.metrics := by
  induction commands with
  | nil =>
    intro p p' h
    obtain ⟨-, rfl⟩ := Prod.mk.inj h
    rfl
  | cons command rest ih =>
    intro p p' h
    cases command with
    | enter stage call => exact ih (p := p.enter stage call) h
    | report event => exact ih (p := p.report event) h
    | refuse error => cases h
    | ask request =>
      rw [run, issue] at h
      rcases hserve : p.pool.serve ops request with ⟨e | _, pool⟩
      · rw [hserve] at h
        cases h
      · rw [hserve] at h
        exact ih h

namespace Stepper

variable {s : Stepper σ α} {clock : Clock α} {grids : List (Grid α)} {memory : σ} {a : Advance σ α}

/-- The places of grids are counted as the grids are. -/
theorem countP_bind (s : Stepper σ α) (grids : List (Grid α)) (c : BoundaryPolicy → Bool) :
    ((Pool.slots grids).map (Pool.bind s.streams)).countP (fun b => c (s.policyOf b.descriptor))
      = grids.countP fun g => c (s.boundaryFor g).policy := by
  conv_rhs => rw [← Pool.map_snd_slots grids]
  rw [List.countP_map, List.countP_map]
  rfl

/-- What a stage asks for is counted per grid. -/
theorem foldl_count_stage (hl : ∀ g ∈ grids, ¬ s.Refuses g) (m : Metrics) (stage : Stage α) :
    (s.asks clock grids stage).foldl Metrics.count m
      = m.plus 1 grids.length (grids.countP fun g => s.boundaryFor g = .extrapolation)
        (grids.countP fun g => s.boundaryFor g = .radiation) := by
  have hnone : ∀ b ∈ (Pool.slots grids).map (Pool.bind s.streams),
      b.refusal? s.blockSize stage = none := by
    intro b hb
    obtain ⟨e, he, rfl⟩ := List.mem_map.mp hb
    exact refusal?_eq_none (hl e.2 (Pool.mem_of_mem_slots he)) stage
  rw [asks, List.foldl_append, Metrics.foldl_count_flatMap_asks m hnone, List.length_map,
    Pool.length_slots, countP_bind, countP_bind]
  simp only [BoundaryCondition.afterStage_policy, BoundaryCondition.afterRhs_policy]
  exact Metrics.plus_plus m 0 _ _ _ 1 0 0 0

/-- **What stages ask for is counted per stage and grid.** -/
theorem foldl_count_stages (hl : ∀ g ∈ grids, ¬ s.Refuses g) (stages : List (Stage α)) :
    ∀ m : Metrics, (stages.flatMap (s.asks clock grids)).foldl Metrics.count m
      = m.plus stages.length (stages.length * grids.length)
        (stages.length * grids.countP fun g => s.boundaryFor g = .extrapolation)
        (stages.length * grids.countP fun g => s.boundaryFor g = .radiation) := by
  induction stages with
  | nil => intro m; simp [Metrics.plus]
  | cons stage stages ih =>
    intro m
    rw [List.flatMap_cons, List.foldl_append, foldl_count_stage hl, ih, Metrics.plus_plus,
      List.length_cons]
    simp only [Nat.add_mul, Nat.one_mul, Nat.add_comm]

/-- What a step counts if it succeeds. -/
def dueMetrics (s : Stepper σ α) (grids : List (Grid α)) : Metrics where
  stages := s.plan.tableau.stages
  launches := s.plan.tableau.stages * grids.length
  rhsEvaluations := s.plan.tableau.stages * grids.length
  boundaryApplications :=
    s.plan.tableau.stages * grids.countP fun g => s.boundaryFor g = .extrapolation
  radiationApplications :=
    s.plan.tableau.stages * grids.countP fun g => s.boundaryFor g = .radiation
  streamsUsed := (Stream.indices ((Pool.slots grids).map (Pool.bind s.streams))).length

/-- **The streams in use are the distinct streams of the grids.** -/
theorem streamsUsed_dueMetrics (s : Stepper σ α) (grids : List (Grid α)) :
    (s.dueMetrics grids).streamsUsed = (grids.map fun g => g.id % s.streams).dedup.length := by
  have hperm : (Stream.indices ((Pool.slots grids).map (Pool.bind s.streams))).Perm
      (grids.map fun g => g.id % s.streams).dedup := by
    refine (List.perm_ext_iff_of_nodup (Stream.pairwise_indices _).nodup
      (List.nodup_dedup _)).mpr fun t => ?_
    conv_rhs => rw [← Pool.map_snd_slots grids]
    simp only [Stream.mem_indices, List.mem_dedup, List.mem_map, exists_exists_and_eq_and]
    rfl
  exact hperm.length_eq

/-- What is due is what is counted of the requests. -/
theorem foldl_count_requests
    (hrefusal : Command.refusal? (s.plan.stages.flatMap (s.stageCommands clock grids)) = none) :
    (Command.requests (s.plan.stages.flatMap (s.stageCommands clock grids))).foldl Metrics.count
      (s.begin clock grids memory).metrics = s.dueMetrics grids := by
  have hbegin : (s.begin clock grids memory).metrics
      = { streamsUsed := (Stream.indices ((Pool.slots grids).map (Pool.bind s.streams))).length } :=
    congrArg (Metrics.mk 0 0 0 0 0) (Pool.streamsUsed_spawn s.streams grids memory)
  rw [(requests_flatMap_stageCommands s clock grids s.plan.stages).2 hrefusal]
  rw [foldl_count_stages (not_refuses_of_refusal? hrefusal), length_stages, hbegin, Metrics.plus,
    dueMetrics]
  simp only [Nat.zero_add]

/-- **Commands that succeed have counted what is due.** -/
theorem metrics_of_run_ok {p : Progress σ α}
    (hrun : Progress.run s.operators (s.plan.stages.flatMap (s.stageCommands clock grids))
      (s.begin clock grids memory) = (.ok (), p)) : p.metrics = s.dueMetrics grids := by
  rw [Progress.metrics_of_run_ok _ hrun]
  exact foldl_count_requests (Progress.pool_of_run_ok _ hrun).2

/-! ## Runs that succeed -/

/-- **Grids on which a stepper cannot fail**: the collaborators succeed on them, the buffers fit and
no launch is refused. -/
structure Succeeds (s : Stepper σ α) (grids : List (Grid α)) : Prop where
  succeed : ∀ g ∈ grids, s.operators.SucceedsOn g
  points : ∀ g ∈ grids, g.functions.points = g.descriptor.points
  launch : ∀ g ∈ grids, ¬ s.Refuses g

/-- Grids of the same shapes fit and are launched alike. -/
theorem Twin.fit_and_launch {s' : Stepper σ α} (hs : s.Twin s') {grids' : List (Grid α)}
    (hg : List.Forall₂ Grid.Refills grids grids')
    (hpoints : ∀ g ∈ grids, g.functions.points = g.descriptor.points)
    (hlaunch : ∀ g ∈ grids, ¬ s.Refuses g) :
    (∀ g ∈ grids', g.functions.points = g.descriptor.points) ∧ ∀ g ∈ grids', ¬ s'.Refuses g := by
  obtain ⟨phase, metrics, rfl⟩ := hs
  refine ⟨List.forall_mem_of_forall₂ hg (fun hr h => ?_) hpoints,
    List.forall_mem_of_forall₂ hg (fun hr h => ?_) hlaunch⟩
  · obtain ⟨_, rfl⟩ := hr
    exact h
  · obtain ⟨_, rfl⟩ := hr
    exact h

/-- Where a stepper cannot fail, one of its twins cannot, and the same is due. -/
theorem Succeeds.twin (h : s.Succeeds grids) {s' : Stepper σ α} (hs : s.Twin s')
    {grids' : List (Grid α)} (hg : List.Forall₂ Grid.Refills grids grids') :
    s'.Succeeds grids' ∧ s'.dueMetrics grids' = s.dueMetrics grids := by
  have hbindings := Pool.map_bind_slots_of_refills hg s.streams
  have hconditions : grids'.map s.boundaryFor = grids.map s.boundaryFor :=
    List.map_eq_of_forall₂ hg fun hr => by
      obtain ⟨_, rfl⟩ := hr
      rfl
  have hcount : ∀ c : BoundaryCondition → Bool,
      (grids'.countP fun g => c (s.boundaryFor g)) = grids.countP fun g => c (s.boundaryFor g) := by
    intro c
    have hmap := congrArg (List.countP c) hconditions
    rwa [List.countP_map, List.countP_map] at hmap
  obtain ⟨hpoints, hlaunch⟩ := hs.fit_and_launch hg h.points h.launch
  obtain ⟨phase, metrics, rfl⟩ := hs
  have hsucceed := List.forall_mem_of_forall₂ hg (fun hr h => h.refills hr) h.succeed
  refine ⟨⟨hsucceed, hpoints, hlaunch⟩, ?_⟩
  rw [dueMetrics, dueMetrics, ← hbindings, ← hg.length_eq, ← hcount (· = .extrapolation),
    ← hcount (· = .radiation)]
  rfl

/-- **A step succeeds under every schedule** if it cannot fail, counts what is due and leaves grids
of the same shapes. -/
theorem Ends.of_succeeds (h : s.Ends clock grids memory a) (hp : s.poisoned = false)
    (hf : s.operators.Functional) (hs : s.Succeeds grids) :
    ∃ p report, Progress.run s.operators (s.plan.stages.flatMap (s.stageCommands clock grids))
        (s.begin clock grids memory) = (.ok (), p)
      ∧ a.grids = p.pool.grids ∧ List.Forall₂ Grid.Refills grids a.grids
      ∧ a.result = .ok report ∧ report.metrics = s.dueMetrics grids := by
  obtain ⟨p, hrun⟩ := exists_run_of_succeed hs.succeed hs.points hs.launch clock memory
  have hagrees := h.agrees_of_run_ok hf hrun
  have hstep := step_of_run_ok hp hrun
  have hgrids : a.grids = p.pool.grids := hagrees.grids.trans (congrArg Advance.grids hstep)
  obtain ⟨current, hready, hbind, hrefills⟩ := exists_ready_of_run_ok s.plan.stages
    (s.ready_begin clock grids memory) (fun e _ => .refl e.2) hrun
  refine ⟨p, _, hrun, hgrids, ?_, hagrees.result.trans (congrArg Advance.result hstep),
    metrics_of_run_ok hrun⟩
  rw [hgrids]
  exact Pool.forall₂_grids (hbind.trans (Pool.bindings_spawn ..)) fun e he =>
    ⟨current e, hready.grids e he, hrefills e he⟩

/-- **After a step that succeeds the stepper is as before**, but for its phase and its last
metrics. -/
theorem Ends.twin_of_ok (h : s.Ends clock grids memory a) {report : Report α}
    (hok : a.result = .ok report) : s.Twin a.stepper := by
  rcases h.cases with ⟨-, rfl⟩ | ⟨-, metrics, -, -, hs⟩ | ⟨-, e, n, herror, -⟩
  · cases hok
  · exact ⟨.complete, metrics, hs⟩
  · cases herror.symm.trans hok

end Stepper

/-- **Every step of a run succeeds** if the stepper cannot fail on its grids, counts what is due and
leaves grids of the same shapes. -/
theorem Run.Continues.of_succeeds {r : Run σ α} {l : List (Advance σ α)} (h : r.Continues l) :
    r.stepper.poisoned = false → r.stepper.operators.Functional → r.stepper.Succeeds r.grids →
      ∀ a ∈ l, (∃ report, a.result = .ok report ∧ report.metrics = r.stepper.dueMetrics r.grids)
        ∧ List.Forall₂ Grid.Refills r.grids a.grids := by
  induction h with
  | nil r => exact fun _ _ _ => List.forall_mem_nil _
  | @cons r a l ha _ ih =>
    intro hp hf hs
    obtain ⟨_, report, -, -, hgrids, hresult, hmetrics⟩ := ha.of_succeeds hp hf hs
    have htwin := ha.twin_of_ok hresult
    obtain ⟨hnext, hdue⟩ := hs.twin htwin hgrids
    have hlater := ih (htwin.poisoned.trans hp) (ha.operators_eq ▸ hf) hnext
    refine List.forall_mem_cons.mpr ⟨⟨⟨report, hresult, hmetrics⟩, hgrids⟩, fun b hb => ?_⟩
    obtain ⟨hok, hb⟩ := hlater b hb
    exact ⟨hdue ▸ hok, List.forall₂_trans hgrids Grid.Refills.trans hb⟩

end MethodOfLines
