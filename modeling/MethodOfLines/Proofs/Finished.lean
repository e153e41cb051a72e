import MethodOfLines.Operator.Edges
import MethodOfLines.Proofs.Dispatch
import MethodOfLines.Proofs.Success

/-!
# Proofs/Finished — what a step that succeeds leaves, under every schedule

A right-hand side that overwrites its output and an enforcer that is a function of its arguments can
tell what others have done only by failing.  So an operation that is done would have been done
whatever is remembered, and with the same values (`Op.execute_of_done`), and where a worker comes to
without a failure depends on its operations alone (`Worker.after_of_done`).

If a step succeeds under one schedule, it succeeds under every other and leaves the same grids
(`Stepper.Ends.of_ok`), and those are what the textbook recursion says
(`Stepper.Ends.grids_eq_finished`).
-/

namespace MethodOfLines

variable {σ α : Type} [Scalar α]

/-! ## What is done, whatever is remembered -/

section Done

variable {ops : Operators σ α} (hr : ops.rhs.Overwrites) (hb : ops.boundary.Functional)

include hr hb

/-- **An operation that is done is done whatever is remembered**, and leaves the same grid. -/
theorem Op.execute_of_done {op : Op α} {stream : StreamIndex} {params : Option (Params α)}
    {g : Grid α} {memory : σ} (hd : (op.execute ops stream params g memory).verdict = .done)
    (memory' : σ) :
    (op.execute ops stream params g memory').verdict = .done
      ∧ (op.execute ops stream params g memory').grid
        = (op.execute ops stream params g memory).grid := by
  cases op with
  | syncParams p => exact ⟨rfl, rfl⟩
  | launch call kernel stageBuffer work => exact ⟨hd, rfl⟩
  | evaluateRhs call input output =>
    cases hpair : g.functions.buffers.pair? input output with
    | none => simp [execute, executeRhs, hpair] at hd
    | some buffers =>
      obtain ⟨x, out⟩ := buffers
      simp only [execute, executeRhs, hpair] at hd ⊢
      have hdone : (ops.rhs.evaluate (context stream call g) x out memory).outcome = .done := by
        split at hd
        · next hdone _ => exact hdone
        · exact Outcome.eq_done_of_verdict hd
      obtain ⟨houtcome, hbuffer⟩ := hr (context stream call g) x out out memory memory'
      rw [← houtcome, ← hbuffer hdone]
      exact ⟨hd, rfl⟩
  | applyRadiation call input output =>
    cases hpair : g.functions.buffers.pair? input output with
    | none => simp [execute, executeRadiation, hpair] at hd
    | some buffers =>
      obtain ⟨x, out⟩ := buffers
      simp only [execute, executeRadiation, hpair] at hd ⊢
      obtain ⟨houtcome, hbuffer⟩ := hb.radiation (context stream call g) x out memory memory'
      rw [← houtcome, ← hbuffer]
      exact ⟨hd, rfl⟩
  | applyBoundary call target =>
    simp only [execute, executeBoundary] at hd ⊢
    obtain ⟨houtcome, hbuffer⟩ :=
      hb.apply (context stream call g) (g.functions.buffer target) memory memory'
    rw [← houtcome, ← hbuffer]
    exact ⟨hd, rfl⟩

/-- **A turn that is done leaves the same worker whatever is remembered.** -/
theorem Worker.turn_of_done {w : Worker α} {x : Nat × Op α} {memory : σ}
    (hd : (w.turn ops ⟨x, memory⟩).status = .done) (memory' : σ) :
    w.turn ops ⟨x, memory'⟩ = w.turn ops ⟨x, memory⟩ := by
  obtain ⟨slot, op⟩ := x
  have hs : w.status = .done := by
    by_contra hne
    rw [turn_of_status_ne ops hne] at hd
    exact hne hd
  by_cases hwork : op.IsWork
  · cases hg : w.grid? slot with
    | none =>
      -- a worker without the grid is lost, whatever is remembered
      simp only [turn, perform_of_status ops hs]
      cases op with
      | syncParams p => exact absurd rfl (hwork p)
      | _ => simp [execute, hg]
    | some g =>
      simp only [turn, perform_work ops hs hg hwork, status_settle hs] at hd ⊢
      obtain ⟨hverdict, hgrid⟩ := Op.execute_of_done hr hb hd memory'
      rw [hverdict, hgrid, hd]
  · obtain ⟨p, rfl⟩ : ∃ p, op = .syncParams p := by simpa [Op.IsWork] using hwork
    simp only [turn, perform_sync ops hs]

/-- **Where a worker comes to without a failure depends on its operations alone.** -/
theorem Worker.after_of_done {turns : List (Turn σ α)} :
    ∀ {w : Worker α} {turns' : List (Turn σ α)}, turns'.map Turn.work = turns.map Turn.work →
      (w.after ops turns).status = .done → w.after ops turns' = w.after ops turns := by
  induction turns with
  | nil =>
    intro w turns' hwork _
    rw [List.map_eq_nil_iff.mp hwork]
  | cons x turns ih =>
    intro w turns' hwork hs
    obtain ⟨⟨work, memory⟩, turns', rfl, rfl, hrest⟩ := List.map_eq_cons_iff.mp hwork
    rw [after_cons] at hs ⊢
    rw [after_cons, turn_of_done hr hb (status_of_after ops hs) memory]
    exact ih hrest hs

/-- A worker that comes to the end of its operations without a failure comes through every beginning
of them. -/
theorem Worker.status_of_isPrefix {w : Worker α} {turns turns' : List (Turn σ α)}
    (h : turns'.map Turn.work <+: turns.map Turn.work) (hs : (w.after ops turns).status = .done) :
    (w.after ops turns').status = .done := by
  obtain ⟨rest, hrest⟩ := h
  obtain ⟨first, later, rfl, hfirst, -⟩ := List.map_eq_append_iff.mp hrest.symm
  rw [after_append] at hs
  have hdone := status_of_after ops hs
  rwa [after_of_done hr hb hfirst.symm hdone]

end Done

/-! ## Steps that succeed -/

namespace Stepper

variable {s : Stepper σ α} {clock : Clock α} {grids : List (Grid α)} {memory : σ}
  {a b : Advance σ α} {report : Report α}

/-- **In a step that succeeds every worker comes through the agenda of its stream**, and its grids
are where that takes them. -/
theorem Ending.exists_past_of_ok {before current : List (Request α)} {m : Machine σ α}
    (h : s.Ending clock grids memory before current m)
    (hok : (s.conclude clock grids memory m.results m.pool).result = .ok report)
    {e : Nat × Grid α} (he : e ∈ Pool.slots grids) :
    ∃ past : List (Turn σ α),
      past.map Turn.work
          = Request.workFor (Pool.bind s.streams e).stream (s.agenda clock grids)
        ∧ ((Worker.fresh s.streams grids (Pool.bind s.streams e).stream).after s.operators
          past).status = .done
        ∧ m.pool.grid? (Pool.bind s.streams e)
          = ((Worker.fresh s.streams grids (Pool.bind s.streams e).stream).after s.operators
            past).grid? e.1 := by
  obtain ⟨hmade, -⟩ := h.agenda_of_ok hok
  obtain rfl := h.current_of_ok hmade
  obtain ⟨lane, -, past, turns, hrec, hgrid⟩ := h.exists_turns he
  rw [List.append_nil] at hmade
  obtain rfl : turns = [] := by
    have hnone := List.prefix_nil.mp hrec.begun
    exact List.map_eq_nil_iff.mp (List.append_eq_nil_iff.mp hnone).1
  rw [List.append_nil] at hgrid
  exact ⟨past, hmade ▸ hrec.elapsed, hrec.clean, hgrid⟩

/-- Every worker of a step owns one of its grids. -/
theorem Ending.exists_slot {before current : List (Request α)} {m : Machine σ α}
    (h : s.Ending clock grids memory before current m) {lane : Lane α} (hmem : lane ∈ m.lanes) :
    ∃ e ∈ Pool.slots grids, (Pool.bind s.streams e).stream = lane.stream.index := by
  have hindex := List.mem_map_of_mem (f := fun lane : Lane α => lane.stream.index) hmem
  rw [h.streams, Pool.indices_spawn] at hindex
  obtain ⟨_, hbind, hi⟩ := Stream.mem_indices.mp hindex
  obtain ⟨e, he, rfl⟩ := List.mem_map.mp hbind
  exact ⟨e, he, hi⟩

/-- **If a step can succeed, nothing goes wrong with any worker**, under whatever schedule and
however far the worker has come. -/
theorem Ending.clean_of_ok {before current before' current' : List (Request α)}
    {m m' : Machine σ α} (h : s.Ending clock grids memory before current m)
    (hr : s.operators.rhs.Overwrites) (hb : s.operators.boundary.Functional)
    (hok : (s.conclude clock grids memory m.results m.pool).result = .ok report)
    (h' : s.Ending clock grids memory before' current' m') {lane : Lane α}
    (hmem : lane ∈ m'.lanes) : lane.stream.worker.lost = false ∧ lane.reply.join = none := by
  obtain ⟨past', turns', hrec, -⟩ := h'.follows.lanes lane hmem
  obtain ⟨e, he, hi⟩ := h'.exists_slot hmem
  obtain ⟨past, hpast, hdone, -⟩ := h.exists_past_of_ok hok he
  rw [hi] at hpast hdone
  have hbegun := hrec.isPrefix.trans (h'.follows.isPrefix_agenda lane.stream.index)
  obtain ⟨hl, hf⟩ :=
    Worker.status_eq_done.mp (Worker.status_of_isPrefix hr hb (hpast ▸ hbegun) hdone)
  refine ⟨hrec.lost_eq.trans hl, ?_⟩
  rcases hrec.worker with ⟨-, hreply⟩ | ⟨-, hreply, -⟩
  · exact hreply
  · rw [hreply, Option.join_some, hf]

section Schedules

variable (ha : s.Ends clock grids memory a) (hr : s.operators.rhs.Overwrites)
  (hb : s.operators.boundary.Functional) (hok : a.result = .ok report)

include ha hr hb hok

/-- **A step that can succeed does not fail.** -/
theorem Ends.exists_report_of_ok (hends : s.Ends clock grids memory b) :
    ∃ report', b.result = .ok report' := by
  obtain ⟨hp, hlaunch⟩ := ha.not_refuses hok
  obtain ⟨schedule, hfinished, rfl⟩ := ha.exists_machine (by simp [hp])
  obtain ⟨before, current, hending⟩ := exists_ending_machine hfinished
  cases hresult : b.result with
  | ok report' => exact ⟨report', rfl⟩
  | error error =>
    exfalso
    obtain ⟨schedule', hstep⟩ := hends
    have hfinished' : (s.machine clock grids memory schedule').isFinished = true := by
      rw [stepUnder_eq (by simp [hp]), Option.ite_none_right_eq_some] at hstep
      exact hstep.1
    obtain ⟨before', current', hending'⟩ := exists_ending_machine hfinished'
    -- no worker is to blame, and no launch was refused
    rcases refusal_or_blames (by simp [hp]) hstep hresult with ⟨_, -, hrefusal⟩ | hblames
    · obtain ⟨-, ⟨g, hg, -, hfault⟩, -⟩ := requests_of_refusal memory hrefusal
      exact hlaunch g hg ⟨_, hfault⟩
    · cases hblames with
      | answered hmem hreply =>
        have hnone := (hending.clean_of_ok hr hb hok hending' hmem).2
        rw [hreply] at hnone
        cases hnone
      | gone hmem hl _ _ =>
        cases hl.symm.trans (hending.clean_of_ok hr hb hok hending' hmem).1

/-- **A step that can succeed succeeds under every schedule**, and leaves the same grids. -/
theorem Ends.of_ok (hends : s.Ends clock grids memory b) :
    (∃ report', b.result = .ok report') ∧ b.grids = a.grids := by
  obtain ⟨report', hok'⟩ := ha.exists_report_of_ok hr hb hok hends
  refine ⟨⟨report', hok'⟩, ?_⟩
  have hp := (ha.not_refuses hok).1
  obtain ⟨schedule, hfinished, rfl⟩ := ha.exists_machine (by simp [hp])
  obtain ⟨schedule', hfinished', rfl⟩ := hends.exists_machine (by simp [hp])
  obtain ⟨_, _, hending⟩ := exists_ending_machine hfinished
  obtain ⟨_, _, hending'⟩ := exists_ending_machine hfinished'
  rw [grids_conclude, grids_conclude, Pool.grids, Pool.grids]
  rw [show (s.machine clock grids memory schedule).pool.bindings = _ from hending.bindings,
    show (s.machine clock grids memory schedule').pool.bindings = _ from hending'.bindings,
    List.filterMap_map, List.filterMap_map]
  refine List.filterMap_congr fun e he => ?_
  obtain ⟨past, hpast, hdone, hgrid⟩ := hending.exists_past_of_ok hok he
  obtain ⟨past', hpast', -, hgrid'⟩ := hending'.exists_past_of_ok hok' he
  rw [Function.comp_apply, Function.comp_apply, hgrid, hgrid',
    Worker.after_of_done hr hb (hpast'.trans hpast.symm) hdone]

/-- **A step that succeeds leaves in all four buffers of every grid what the textbook recursion
says**, under every schedule, operation by operation, and whatever the stage buffers and the total
held before.  The memory the recursion is read with does not matter. -/
theorem Ends.grids_eq_finished (memory' : σ) :
    a.grids = grids.map fun g => g.setBuffers ((s.recursion clock memory' g).finished
      g.functions.buffers (s.plan.tableau.stages - 1)) := by
  -- what is left is what is left when every operation is carried out as it is issued
  obtain ⟨⟨report', hok'⟩, hgrids⟩ := ha.of_ok hr hb hok (s.ends_step clock grids memory)
  obtain ⟨p, hrun, hstep⟩ := run_of_result_ok hok'
  rw [← hgrids, hstep]
  exact grids_of_run_ok hr (fun _ _ _ => hb) memory memory' hrun

end Schedules

end Stepper

/-- Three stages on two grids, one corrected at the boundary by its rates and one by its values, one
operation after the other and with a lead of the issuing side. -/
theorem Stepper.grids_eq_finished_heunThird :
    let s : Stepper Unit Rat := .heunThird (.affine 1 2 3) (.edge 2)
    let clock : Clock Rat := ⟨0, 1, 0⟩
    let grids := [Grid.pair 0 .radiation 1 2, Grid.pair 3 .extrapolation 3 4]
    let schedule := (List.replicate 3 (List.replicate 11 Actor.issuer
      ++ List.replicate 5 (.worker 1) ++ List.replicate 5 (.worker 0) ++ [.issuer])).flatten
    let finished := grids.map fun g =>
      g.setBuffers ((s.recursion clock () g).finished g.functions.buffers 2)
    ((s.step clock grids ()).result = .ok ⟨1, 1, ⟨3, 6, 6, 3, 3, 2⟩⟩
        ∧ (s.step clock grids ()).grids = finished)
      ∧ ∃ a, s.stepUnder clock grids () schedule = some a
        ∧ a.result = .ok ⟨1, 1, ⟨3, 6, 6, 3, 3, 2⟩⟩ ∧ a.grids = finished := by
  intro s clock grids schedule finished
  have hr : s.operators.rhs.Overwrites := (Rhs.computes_affine 1 2 3).overwrites
  have hb := s.operators.functional.boundary
  have hstep : (s.step clock grids ()).result = .ok ⟨1, 1, ⟨3, 6, 6, 3, 3, 2⟩⟩ := by cbv
  have hunder : (s.stepUnder clock grids () schedule).map (·.result)
      = some (.ok ⟨1, 1, ⟨3, 6, 6, 3, 3, 2⟩⟩) := by cbv
  obtain ⟨a, ha, hresult⟩ := Option.map_eq_some_iff.mp hunder
  exact ⟨⟨hstep, (s.ends_step clock grids ()).grids_eq_finished hr hb hstep ()⟩, a, ha, hresult,
    Ends.grids_eq_finished ⟨schedule, ha⟩ hr hb hresult ()⟩

end MethodOfLines
