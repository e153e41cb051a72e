import MethodOfLines.Proofs.Evaluations
import MethodOfLines.Proofs.Success

/-!
# Proofs/Work — what a step counts is what its workers do

The issuing side counts a request when it is served, and the workers carry it out later, or fail, or
skip it.  Between fences the counts can therefore run ahead of the work.  Once a step has succeeded
they cannot: what was carried out is what was asked for, but for its order
(`Machine.Follows.performed_perm`), and nothing of it went wrong, since trouble would have been
reported at the last fence.

What a worker does to a collaborator is in the log of calls.  `Stepper.kernels` are the kernels that
ran; each is the work of a launch that was carried out, and a launch that was carried out without
its kernel makes trouble (`Machine.launches_of_move?`).
-/

namespace MethodOfLines

variable {σ α : Type}

/-! ## Launches in some work -/

/-- Whether an operation launches a kernel. -/
def Op.isLaunch : Op α → Bool
  | .launch .. => true
  | _ => false

/-- The number of launches in some work. -/
def launchesIn (work : List (Nat × Op α)) : Nat := work.countP (·.2.isLaunch)

@[simp] theorem launchesIn_append (l l' : List (Nat × Op α)) :
    launchesIn (l ++ l') = launchesIn l + launchesIn l' := List.countP_append

variable [Scalar α]

/-! ## The kernels of a run -/

/-- The kernel a worker runs in its next turn: none if it skips what it is given or refuses the
launch. -/
def Worker.kernel? (overflow : Overflow) (w : Worker α) (slot : Nat) :
    Op α → Option (Nat × Launch)
  | .launch call kernel stageBuffer work =>
    (w.grid? slot).bind fun g =>
      if w.status = .done
          ∧ (Op.executeLaunch overflow w.params call kernel stageBuffer work g).1 = .done
      then some (slot, work) else none
  | _ => none

/-- The kernel that runs in the next move of a lane. -/
def Lane.kernel? (overflow : Overflow) (lane : Lane α) : Option (Nat × Launch) :=
  match lane.queue with
  | .work slot op :: _ => lane.stream.worker.kernel? overflow slot op
  | _ => none

namespace Worker

variable {w : Worker α} {slot : Nat} {op : Op α}

theorem kernel?_of_status_ne (overflow : Overflow) (h : w.status ≠ .done) :
    w.kernel? overflow slot op = none := by
  cases op with
  | launch call kernel stageBuffer work =>
    rw [kernel?, Option.bind_eq_none_iff]
    exact fun g _ => if_neg fun hdone => h hdone.1
  | _ => rfl

/-- **A launch that is carried out and goes well runs its kernel.** -/
theorem length_kernel?_of_done {ops : Operators σ α} (h : w.status = .done) {memory : σ}
    (hdone : (w.perform ops slot op memory).1.status = .done) :
    (w.kernel? ops.overflow slot op).toList.length = launchesIn [(slot, op)] := by
  cases op with
  | launch call kernel stageBuffer work =>
    cases hg : w.grid? slot with
    | none =>
      rw [perform_of_status ops h] at hdone
      simp [execute, hg, status] at hdone
    | some g =>
      rw [perform_work ops h hg (fun _ => by simp), status_settle h] at hdone
      rw [kernel?, hg, Option.bind_some, if_pos ⟨h, hdone⟩]
      rfl
  | _ => rfl

end Worker

namespace Machine

/-- The kernel that runs in a move. -/
def kernel? (ops : Operators σ α) (m : Machine σ α) : Actor → Option (Nat × Launch)
  | .issuer => none
  | .worker t => (m.lanes.find? (·.stream.index = t)).bind (·.kernel? ops.overflow)

/-- **The kernels that run along a schedule**, with the slots of their grids, in order. -/
def kernels (ops : Operators σ α) (d : Discipline) : Machine σ α → Schedule → List (Nat × Launch)
  | _, [] => []
  | m, actor :: schedule =>
    match m.move? ops d actor with
    | none => kernels ops d m schedule
    | some m' => (m.kernel? ops actor).toList ++ kernels ops d m' schedule

variable {ops : Operators σ α} {d : Discipline} {m m' : Machine σ α}

/-- **In every move as many kernels run as launches are carried out**, or something goes wrong. -/
theorem launches_of_move? {actor : Actor} (hmove : m.move? ops d actor = some m') :
    m'.Troubled
      ∨ launchesIn m'.performed = launchesIn m.performed + (m.kernel? ops actor).toList.length := by
  cases actor with
  | issuer =>
    obtain ⟨_, -, hperformed, -⟩ := exists_map_of_issuer? hmove
    exact .inr (congrArg launchesIn hperformed)
  | worker t =>
    obtain ⟨lane, lane', after, performed, hlane, hadv, rfl⟩ := worker?_cases hmove
    obtain ⟨hmem, rfl⟩ := mem_of_lane? hlane
    rw [kernel?, hlane, Option.bind_some]
    rcases Lane.performed_of_advance? hadv with
      ⟨_, hq, -, -, -, -, rfl⟩ | ⟨slot, op, rest, hq, hst, -, -, -, rfl⟩
    · exact .inr (by simp [Lane.kernel?, hq])
    · by_cases hs : lane.stream.worker.status = .done
      · by_cases hdone : (lane.stream.worker.perform ops slot op m.memory).1.status = .done
        · refine .inr ?_
          simp [Lane.kernel?, hq, if_pos hs, Worker.length_kernel?_of_done hs hdone]
        · exact .inl ⟨lane', List.mem_map.mpr ⟨lane, hmem, if_pos rfl⟩, .inl (by rwa [hst])⟩
      · exact .inr (by simp [Lane.kernel?, hq, if_neg hs, Worker.kernel?_of_status_ne _ hs])

variable {origin : StreamIndex → Worker α} {home : Nat → StreamIndex}
  {requests : List (Request α)}

/-- Trouble stays, whatever the schedule. -/
theorem Troubled.of_run (ho : Request.Orderly home requests) {before current : List (Request α)}
    (h : m.Follows ops origin home requests before current) (ht : m.Troubled)
    (schedule : Schedule) : (m.run ops .stop schedule).Troubled := by
  refine (run_invariant (I := fun m =>
    (∃ before current, m.Follows ops origin home requests before current) ∧ m.Troubled)
    (fun hI hmove => ?_) ⟨⟨before, current, h⟩, ht⟩ schedule).2
  obtain ⟨⟨_, _, h⟩, ht⟩ := hI
  exact ⟨follows_of_move? ho h hmove, ht.of_move? h hmove⟩

/-- **Along every schedule as many kernels run as launches are carried out**, unless something goes
wrong. -/
theorem launches_of_run (ops : Operators σ α) (ho : Request.Orderly home requests)
    (schedule : Schedule) :
    ∀ {m : Machine σ α} {before current : List (Request α)},
      m.Follows ops origin home requests before current →
      (m.run ops .stop schedule).Troubled
        ∨ launchesIn (m.run ops .stop schedule).performed
          = launchesIn m.performed + (m.kernels ops .stop schedule).length := by
  induction schedule with
  | nil => exact fun _ => .inr rfl
  | cons actor schedule ih =>
    intro m before current h
    rw [run_cons, kernels]
    cases hmove : m.move? ops .stop actor with
    | none => exact ih h
    | some m' =>
      obtain ⟨before', current', h'⟩ := follows_of_move? ho h hmove
      rcases launches_of_move? hmove with ht | hstep
      · exact .inl (ht.of_run ho h' schedule)
      · refine (ih h').imp_right fun hrun => ?_
        rw [List.length_append, ← Nat.add_assoc, ← hstep]
        exact hrun

end Machine

/-! ## What is asked for -/

omit [Scalar α] in
theorem Request.work_asks (blockSize : Nat) (policy : Descriptor α → BoundaryPolicy)
    (stage : Stage α) (call : StageCall α) (b : Binding α) :
    work (b.asks blockSize policy stage call) = b.round blockSize policy stage call := by
  rw [work, Binding.asks, Binding.round, List.filterMap_map]
  exact congrFun (List.filterMap_eq_map (f := (b.slot, ·))) _

omit [Scalar α] in
/-- A round has one launch, if it is not refused. -/
theorem Binding.launchesIn_round {blockSize : Nat} {policy : Descriptor α → BoundaryPolicy}
    {stage : Stage α} {call : StageCall α} {b : Binding α}
    (h : b.refusal? blockSize stage = none) :
    launchesIn (b.round blockSize policy stage call) = 1 := by
  obtain ⟨work, hwork⟩ : ∃ work, b.launch blockSize stage = .ok work := by
    unfold refusal? at h
    split at h
    · cases h
    · exact ⟨_, ‹_›⟩
  rw [round, row, hwork]
  cases (policy b.descriptor).afterRhs <;> cases (policy b.descriptor).afterStage <;> rfl

namespace Stepper

variable {s : Stepper σ α} {clock : Clock α} {grids : List (Grid α)} {memory : σ} {a : Advance σ α}

/-- **The work of a step**, stage by stage and grid by grid. -/
theorem work_agenda (s : Stepper σ α) (clock : Clock α) (grids : List (Grid α)) :
    Request.work (s.agenda clock grids) = (List.range s.plan.tableau.stages).flatMap fun i =>
      (Pool.slots grids).flatMap fun e => (Pool.bind s.streams e).round s.blockSize s.policyOf
        (s.plan.tableau.stage i) (callAt clock (s.plan.tableau.stage i)) := by
  rw [agenda, Request.work, List.filterMap_flatMap, Plan.stages, List.flatMap_map]
  refine List.flatMap_congr fun i _ => ?_
  change Request.work (s.asks clock grids (s.plan.tableau.stage i)) = _
  rw [asks, Request.work_append, Request.work_fence, List.append_nil, Request.work,
    List.filterMap_flatMap, List.flatMap_map]
  exact List.flatMap_congr fun e _ => Request.work_asks ..

/-- A step launches once per stage and grid. -/
theorem launchesIn_agenda (clock : Clock α) (h : ∀ g ∈ grids, ¬ s.Refuses g) :
    launchesIn (Request.work (s.agenda clock grids)) = s.plan.tableau.stages * grids.length := by
  rw [work_agenda, launchesIn, List.countP_flatMap_of_forall (n := grids.length),
    List.length_range]
  intro i _
  rw [List.countP_flatMap_of_forall (n := 1), Nat.mul_one, Pool.length_slots]
  intro e he
  exact Binding.launchesIn_round (refusal?_eq_none (h e.2 (Pool.mem_of_mem_slots he)) _)

/-- **The calls of a step**, stage by stage and grid by grid. -/
theorem flatMap_callsOf_agenda (clock : Clock α) (h : ∀ g ∈ grids, ¬ s.Refuses g) :
    (Request.work (s.agenda clock grids)).flatMap (s.callsOf grids)
      = (List.range s.plan.tableau.stages).flatMap fun i =>
        grids.flatMap (s.callsAt clock · i) := by
  rw [work_agenda, List.flatMap_assoc]
  refine List.flatMap_congr fun i _ => ?_
  rw [List.flatMap_assoc]
  conv_rhs => rw [← Pool.map_snd_slots grids, List.flatMap_map]
  exact List.flatMap_congr fun e he => calls_round_eq he
    (refusal?_eq_none (h e.2 (Pool.mem_of_mem_slots he)) _)

/-- The calls of a stage for a grid: one for the rates, and one to correct values or rates if the
condition of the grid is extrapolation or radiation. -/
theorem countP_callsAt (s : Stepper σ α) (clock : Clock α) (g : Grid α) (i : Nat) :
    (s.callsAt clock g i).countP (·.hook = .rhs) = 1
      ∧ ((s.callsAt clock g i).countP (·.hook = .apply)
        = if decide (s.boundaryFor g = .extrapolation) = true then 1 else 0)
      ∧ (s.callsAt clock g i).countP (·.hook = .radiation)
        = if decide (s.boundaryFor g = .radiation) = true then 1 else 0 := by
  rw [callsAt]
  cases s.boundaryFor g <;> exact ⟨rfl, rfl, rfl⟩

end Stepper

/-! ## Steps that succeed -/

omit [Scalar α] in
/-- **What commands that succeed count is what they ask for**, if all that they ask is answered. -/
theorem Progress.metrics_of_replay_ok {commands : List (Command α)} :
    ∀ {answers : List (Except StepError Unit)} {p p' : Progress σ α},
      (Command.requests commands).length ≤ answers.length →
      replay commands answers p = (.ok (), p') →
      p'.metrics = (Command.requests commands).foldl Metrics.count p.metrics := by
  induction commands with
  | nil =>
    intro answers p p' _ h
    obtain ⟨-, rfl⟩ := Prod.mk.inj h
    rfl
  | cons command rest ih =>
    intro answers p p' hl h
    cases command with
    | enter stage call => exact ih (p := p.enter stage call) hl h
    | report event => exact ih (p := p.report event) hl h
    | refuse error => cases h
    | ask request =>
      rcases answers with _ | ⟨_ | _, answers⟩
      · cases hl
      · cases h
      · exact ih (p := { p with metrics := p.metrics.count request }) (Nat.le_of_succ_le_succ hl) h

/-- **Counts that agree with the work done**: the kernels that ran, and the calls that were made. -/
structure Metrics.Tally (counts : Metrics) (kernels : List (Nat × Launch)) (calls : List (Call α)) :
    Prop where
  launches : counts.launches = kernels.length
  rhsEvaluations : counts.rhsEvaluations = calls.countP (·.hook = .rhs)
  boundaryApplications : counts.boundaryApplications = calls.countP (·.hook = .apply)
  radiationApplications : counts.radiationApplications = calls.countP (·.hook = .radiation)

namespace Stepper

variable {s : Stepper σ α} {clock : Clock α} {grids : List (Grid α)} {memory : σ} {a : Advance σ α}
  {before current : List (Request α)} {m : Machine σ α} {report : Report α}

/-- **The kernels a step runs** under a schedule, with the slots of their grids, in order. -/
def kernels (s : Stepper σ α) (clock : Clock α) (grids : List (Grid α)) (memory : σ)
    (schedule : Schedule) : List (Nat × Launch) :=
  if s.poisoned then []
  else (Machine.start s.streams grids memory (s.requests clock grids memory)).kernels s.operators
    .stop schedule

/-- A step that succeeds has had all its answers. -/
theorem Ending.length_requests_le (h : s.Ending clock grids memory before current m)
    (hok : (s.conclude clock grids memory m.results m.pool).result = .ok report) :
    (s.requests clock grids memory).length ≤ m.results.length := by
  have hmade : (s.requests clock grids memory).length ≤ (before ++ current).length := by
    rw [(h.agenda_of_ok hok).1]
    exact (s.requests_prefix_agenda clock grids memory).length_le
  rcases h.follows.answers with ⟨hresults, -⟩ | ⟨request, rest, e, -, hresults, -⟩
  · rwa [hresults, List.length_replicate]
  · rw [hresults, List.length_append, List.length_replicate]
    exact hmade.trans (Nat.le_add_right ..)

/-- **A step that succeeds has counted what is due.** -/
theorem Ending.metrics_of_ok (h : s.Ending clock grids memory before current m)
    (hok : (s.conclude clock grids memory m.results m.pool).result = .ok report) :
    report.metrics = s.dueMetrics grids
      ∧ (s.conclude clock grids memory m.results m.pool).stepper.lastMetrics = report.metrics := by
  have hlength := h.length_requests_le hok
  rcases s.conclude_cases clock grids memory m.results m.pool with ⟨p, hp, hend⟩ | ⟨e, p, -, hend⟩
  · rw [hend] at hok ⊢
    obtain rfl := Except.ok.inj hok
    have hrefusal := Progress.refusal?_of_replay hlength (congrArg Prod.fst hp)
    exact ⟨(Progress.metrics_of_replay_ok hlength hp).trans (foldl_count_requests hrefusal), rfl⟩
  · rw [hend] at hok
    cases hok

/-- What a step that succeeds has carried out is its agenda, but for its order. -/
theorem Ending.performed_perm_of_ok (h : s.Ending clock grids memory before current m)
    (hok : (s.conclude clock grids memory m.results m.pool).result = .ok report) :
    m.performed.Perm (Request.work (s.agenda clock grids)) := by
  obtain ⟨hmade, -⟩ := h.agenda_of_ok hok
  obtain rfl := h.current_of_ok hmade
  rw [List.append_nil] at hmade
  exact hmade ▸ h.follows.performed_perm (s.orderly_requests clock grids memory)

/-- **A step that succeeds has run one kernel per stage and grid.** -/
theorem length_kernels_of_ok {schedule : Schedule}
    (h : s.Ending clock grids memory before current (s.machine clock grids memory schedule))
    (hok : (s.conclude clock grids memory (s.machine clock grids memory schedule).results
      (s.machine clock grids memory schedule).pool).result = .ok report) :
    ((Machine.start s.streams grids memory (s.requests clock grids memory)).kernels s.operators
      .stop schedule).length = s.plan.tableau.stages * grids.length := by
  have hrun := Machine.launches_of_run s.operators (s.orderly_requests clock grids memory) schedule
    (Machine.follows_start s.streams grids memory stream_mem_indices)
  rcases hrun with ⟨lane, hmem, htrouble⟩ | hrun
  · obtain ⟨hs, hj⟩ := h.status_of_ok hok lane hmem
    exact absurd htrouble (not_or.mpr ⟨fun hne => hne hs, fun hne => hne hj⟩)
  · rw [← launchesIn_agenda clock (h.agenda_of_ok hok).2]
    have hperm : launchesIn (s.machine clock grids memory schedule).performed = _ :=
      (h.performed_perm_of_ok hok).countP_eq _
    exact (Nat.zero_add _).symm.trans (hrun.symm.trans hperm)

/-- **A step that succeeds has made the calls that are due**, one for the rates per stage and grid
and one per stage for every grid whose condition is extrapolation, or radiation. -/
theorem Ending.countP_calls_of_ok (h : s.Ending clock grids memory before current m)
    (hok : (s.conclude clock grids memory m.results m.pool).result = .ok report) :
    let calls := m.performed.flatMap (s.callsOf grids)
    calls.countP (·.hook = .rhs) = s.plan.tableau.stages * grids.length
      ∧ calls.countP (·.hook = .apply)
        = s.plan.tableau.stages * grids.countP (fun g => s.boundaryFor g = .extrapolation)
      ∧ calls.countP (·.hook = .radiation)
        = s.plan.tableau.stages * grids.countP fun g => s.boundaryFor g = .radiation := by
  intro calls
  have hperm : calls.Perm ((List.range s.plan.tableau.stages).flatMap fun i =>
      grids.flatMap (s.callsAt clock · i)) := by
    rw [← flatMap_callsOf_agenda clock (h.agenda_of_ok hok).2]
    exact (h.performed_perm_of_ok hok).flatMap_right _
  have hcount (hook : Hook) (q : Grid α → Bool)
      (hq : ∀ g i, (s.callsAt clock g i).countP (·.hook = hook) = if q g = true then 1 else 0) :
      calls.countP (·.hook = hook) = s.plan.tableau.stages * grids.countP q := by
    have hstage (i : Nat) : (grids.flatMap (s.callsAt clock · i)).countP (·.hook = hook)
        = grids.countP q :=
      calc (grids.flatMap (s.callsAt clock · i)).countP (·.hook = hook)
        _ = (grids.map fun g => (s.callsAt clock g i).countP (·.hook = hook)).sum :=
          List.countP_flatMap
        _ = (grids.map fun g => [g].countP q).sum := by
          simp only [hq, List.countP_singleton]
        _ = (grids.flatMap fun g => [g]).countP q := List.countP_flatMap.symm
        _ = grids.countP q := by rw [List.flatMap_singleton']
    rw [hperm.countP_eq, List.countP_flatMap_of_forall fun i _ => hstage i, List.length_range]
  refine ⟨?_, hcount .apply _ fun g i => (s.countP_callsAt clock g i).2.1,
    hcount .radiation _ fun g i => (s.countP_callsAt clock g i).2.2⟩
  have hrhs := hcount .rhs (fun _ => true) fun g i => (s.countP_callsAt clock g i).1
  rwa [List.countP_true] at hrhs

/-- **What a step that succeeds counts is what its workers did**, under every schedule.  The kernels
that ran and the calls of the right-hand side are one per stage and grid; the calls that correct
values and rates are one per stage and grid whose condition is extrapolation, or radiation; the
stages are those of the plan, and the streams in use are those that the ids of the grids are taken
to.  The stepper keeps the counts. -/
theorem metrics_tally_the_work {schedule : Schedule}
    (h : s.stepUnder clock grids memory schedule = some a) (hok : a.result = .ok report) :
    report.metrics =
        { stages := s.plan.tableau.stages
          launches := s.plan.tableau.stages * grids.length
          rhsEvaluations := s.plan.tableau.stages * grids.length
          boundaryApplications :=
            s.plan.tableau.stages * grids.countP fun g => s.boundaryFor g = .extrapolation
          radiationApplications :=
            s.plan.tableau.stages * grids.countP fun g => s.boundaryFor g = .radiation
          streamsUsed := (grids.map fun g => g.id % s.streams).dedup.length }
      ∧ (∃ calls, s.logged.stepUnder clock grids (memory, []) schedule = some (a.logged calls)
        ∧ report.metrics.Tally (s.kernels clock grids memory schedule) calls)
      ∧ a.stepper.lastMetrics = report.metrics := by
  have hlogged : s.logged.stepUnder clock grids (memory, []) schedule
      = some (a.logged ((s.carriedOut clock grids memory schedule).flatMap (s.callsOf grids))) := by
    rw [stepUnder_logged, h]
    rfl
  have hp : ¬ s.poisoned = true := by
    intro hp
    rw [stepUnder_of_poisoned hp] at h
    rw [← Option.some.inj h] at hok
    cases hok
  rw [stepUnder_eq hp, Option.ite_none_right_eq_some] at h
  obtain ⟨hfinished, ha⟩ := h
  obtain rfl := Option.some.inj ha
  obtain ⟨before, current, hending⟩ := exists_ending_machine hfinished
  obtain ⟨hmetrics, hlast⟩ := hending.metrics_of_ok hok
  obtain ⟨hrhs, happly, hradiation⟩ := hending.countP_calls_of_ok hok
  refine ⟨?_, ⟨_, hlogged, ?_⟩, hlast⟩
  · rw [hmetrics, ← streamsUsed_dueMetrics]
    rfl
  · rw [carriedOut, kernels, if_neg hp, if_neg hp, hmetrics]
    exact ⟨(length_kernels_of_ok hending hok).symm, hrhs.symm, happly.symm, hradiation.symm⟩

/-- Grids 3 and 5 share stream 1, and one of the three grids has its values corrected. -/
theorem metrics_tally_the_work_heunThird :
    let s : Stepper Unit Rat := .heunThird (.affine 1 2 3) (.edge 2)
    let clock : Clock Rat := ⟨0, 1, 0⟩
    let grids := [Grid.pair 0 .radiation 1 2, Grid.pair 3 .extrapolation 3 4,
      Grid.pair 5 .radiation 5 6]
    let schedule := (List.replicate 50 [Actor.worker 1, .issuer, .worker 0]).flatten
    ∃ a report, s.stepUnder clock grids () schedule = some a ∧ a.result = .ok report
      ∧ report.metrics = ⟨3, 9, 9, 3, 6, 2⟩ ∧ (s.kernels clock grids () schedule).length = 9
      ∧ a.stepper.lastMetrics = ⟨3, 9, 9, 3, 6, 2⟩ := by
  intro s clock grids schedule
  have hsome : ((s.stepUnder clock grids () schedule).map fun a => a.result.map fun _ => ())
      = some (.ok ()) := by decide +kernel
  obtain ⟨a, ha, hok⟩ := Option.map_eq_some_iff.mp hsome
  obtain ⟨report, hreport⟩ := Advance.exists_report_of_map hok
  obtain ⟨hmetrics, ⟨calls, -, htally⟩, hlast⟩ := metrics_tally_the_work ha hreport
  have hcounts : report.metrics = ⟨3, 9, 9, 3, 6, 2⟩ := hmetrics.trans (by decide +kernel)
  refine ⟨a, report, ha, hreport, hcounts, ?_, hlast.trans hcounts⟩
  rw [← htally.launches, hcounts]

end Stepper

end MethodOfLines
