import MethodOfLines.Operator.Fault
import MethodOfLines.Proofs.Stops

/-!
# Proofs/Logged — collaborators that write down their calls

Any collaborators can be made to write down every call beside what they remember
(`Operators.logged`).  This changes nothing else: a step ends as it did, under the same schedule,
and its log is the calls of the operations it carried out, in the order in which they were carried
out (`Stepper.stepUnder_logged`).

One move at a time: with logs, the machine of the step is the machine without them, together with
the calls of what it has performed (`Stepper.move?_logged`).
-/

namespace MethodOfLines

variable {σ α : Type}

/-- **A call of a collaborator**: where it was made, and what was said. -/
structure Call (α : Type) where
  hook : Hook
  context : Context α

/-- The right-hand side with its calls written down. -/
def Rhs.logged (rhs : Rhs σ α) : Rhs (σ × List (Call α)) α where
  name := rhs.name
  evaluate ctx input output memory :=
    let r := rhs.evaluate ctx input output memory.1
    ⟨r.outcome, r.buffer, r.shared, memory.2 ++ [⟨.rhs, ctx⟩]⟩

/-- The enforcer with its calls written down. -/
def Enforcer.logged (boundary : Enforcer σ α) : Enforcer (σ × List (Call α)) α where
  name := boundary.name
  apply ctx values memory :=
    let r := boundary.apply ctx values memory.1
    ⟨r.outcome, r.buffer, r.shared, memory.2 ++ [⟨.apply, ctx⟩]⟩
  applyRadiation ctx input rates memory :=
    let r := boundary.applyRadiation ctx input rates memory.1
    ⟨r.outcome, r.buffer, r.shared, memory.2 ++ [⟨.radiation, ctx⟩]⟩

/-- **Collaborators that write down every call.** -/
def Operators.logged (ops : Operators σ α) : Operators (σ × List (Call α)) α :=
  ⟨ops.rhs.logged, ops.boundary.logged, ops.checkFinite, ops.overflow⟩

/-! ## The calls of an operation -/

/-- **The calls an operation makes** for a grid.  Rates are not written over their own input. -/
def Op.calls (stream : StreamIndex) (g : Grid α) : Op α → List (Call α)
  | .evaluateRhs call input output =>
    if input = output then [] else [⟨.rhs, context stream call g⟩]
  | .applyRadiation call input output =>
    if input = output then [] else [⟨.radiation, context stream call g⟩]
  | .applyBoundary call _ => [⟨.apply, context stream call g⟩]
  | .syncParams _ | .launch .. => []

/-- Calls say the shape of a grid, not its contents. -/
theorem Op.calls_of_fits {b : Binding α} {g g' : Grid α} (h : b.Fits g) (h' : b.Fits g')
    (stream : StreamIndex) (op : Op α) : op.calls stream g = op.calls stream g' := by
  have hcontext : ∀ call, context stream call g = context stream call g' := by
    intro call
    rw [context, context, h.descriptor, h.fields, h'.descriptor, h'.fields]
  cases op <;> simp only [calls, hcontext]

theorem Op.context_of_mem_calls {stream : StreamIndex} {g : Grid α} {op : Op α} {c : Call α}
    (h : c ∈ op.calls stream g) : ∃ call, op.number? = some call.number
      ∧ c.context = context stream call g := by
  cases op with
  | syncParams params => cases h
  | launch call kernel stageBuffer work => cases h
  | applyBoundary call target =>
    obtain rfl := List.mem_singleton.mp h
    exact ⟨call, rfl, rfl⟩
  | evaluateRhs call input output =>
    rw [calls, List.mem_ite_nil_left, List.mem_singleton] at h
    obtain ⟨-, rfl⟩ := h
    exact ⟨call, rfl, rfl⟩
  | applyRadiation call input output =>
    rw [calls, List.mem_ite_nil_left, List.mem_singleton] at h
    obtain ⟨-, rfl⟩ := h
    exact ⟨call, rfl, rfl⟩

variable [Scalar α]

/-- **An operation with logs** does what it did, and makes its calls. -/
theorem Op.execute_logged (ops : Operators σ α) (stream : StreamIndex) (params : Option (Params α))
    (g : Grid α) (memory : σ) (log : List (Call α)) (op : Op α) :
    op.execute ops.logged stream params g (memory, log)
      = ⟨(op.execute ops stream params g memory).verdict,
          (op.execute ops stream params g memory).grid,
          (op.execute ops stream params g memory).memory, log ++ op.calls stream g⟩ := by
  cases op with
  | syncParams p => simp only [execute, calls, List.append_nil]
  | launch call kernel stageBuffer work =>
    simp only [execute, calls, List.append_nil]
    rfl
  | applyBoundary call target => rfl
  | evaluateRhs call input output =>
    simp only [execute, executeRhs, calls, Buffers.pair?]
    by_cases h : input = output
    · simp only [if_pos h, List.append_nil]
    · simp only [if_neg h]
      rfl
  | applyRadiation call input output =>
    simp only [execute, executeRadiation, calls, Buffers.pair?]
    by_cases h : input = output
    · simp only [if_pos h, List.append_nil]
    · simp only [if_neg h]
      rfl

/-! ## Workers and lanes -/

omit [Scalar α] in
/-- The calls a worker makes for an operation. -/
def Worker.calls (w : Worker α) (x : Nat × Op α) : List (Call α) :=
  (w.grid? x.1).elim [] (x.2.calls w.stream ·)

theorem Worker.perform_logged (ops : Operators σ α) {w : Worker α} (hs : w.status = .done)
    (slot : Nat) (op : Op α) (memory : σ) (log : List (Call α)) :
    w.perform ops.logged slot op (memory, log)
      = ((w.perform ops slot op memory).1, (w.perform ops slot op memory).2,
        log ++ w.calls (slot, op)) := by
  by_cases hop : op.IsWork
  · cases hg : w.grid? slot with
    | some g =>
      rw [perform_work _ hs hg hop, perform_work _ hs hg hop, Op.execute_logged, calls, hg]
      rfl
    | none =>
      rw [perform_of_status _ hs, perform_of_status _ hs, calls, hg]
      cases op with
      | syncParams params => exact absurd rfl (hop params)
      | _ => simp only [execute, hg, Option.elim_none, List.append_nil]
  · obtain ⟨params, rfl⟩ : ∃ params, op = .syncParams params := by simpa [Op.IsWork] using hop
    have hcalls : w.calls (slot, .syncParams params) = [] := by
      rw [calls]
      cases w.grid? slot <;> rfl
    rw [perform_sync _ hs, perform_sync _ hs, hcalls, List.append_nil]

/-- **A move of a worker with logs** does what it did, and makes the calls of what it performs. -/
theorem Lane.advance?_logged (ops : Operators σ α) (lane : Lane α) (memory : σ)
    (log : List (Call α)) :
    lane.advance? ops.logged (memory, log)
      = (lane.advance? ops memory).map fun r => (r.1,
        (r.2.1, log ++ r.2.2.toList.flatMap lane.stream.worker.calls), r.2.2) := by
  unfold advance?
  cases hl : lane.stream.worker.lost with
  | true => simp [hl]
  | false =>
    rcases lane.queue with _ | ⟨⟨slot, op⟩ | _, rest⟩
    · simp
    · by_cases hs : lane.stream.worker.status = .done
      · have hf : lane.stream.worker.failed = none := (Worker.status_eq_done.mp hs).2
        simp [Worker.perform_logged ops hs, hl, hf]
      · have hf : lane.stream.worker.failed.isNone = false := by
          rw [Bool.eq_false_iff]
          exact fun hn => hs (Worker.status_eq_done.mpr ⟨hl, Option.isNone_iff_eq_none.mp hn⟩)
        simp [Worker.perform_of_status_ne _ hs, hl, hf]
    · simp [hl]

/-- What a worker carries out stood in its queue. -/
theorem Lane.mem_work_of_advance? {ops : Operators σ α} {lane lane' : Lane α} {memory memory' : σ}
    {performed : Option (Nat × Op α)}
    (h : lane.advance? ops memory = some (lane', memory', performed)) {x : Nat × Op α}
    (hx : performed = some x) : x ∈ lane.work := by
  rcases performed_of_advance? h with ⟨-, -, -, -, -, -, hp⟩ |
    ⟨slot, op, queue, hq, -, -, -, -, hp⟩
  · rw [hp] at hx
    cases hx
  · rw [hp, Option.ite_none_right_eq_some] at hx
    rw [work, hq, ← Option.some.inj hx.2]
    exact List.mem_cons_self

/-! ## Machines -/

namespace Machine

variable (calls : Nat × Op α → List (Call α)) {m m' : Machine σ α}

omit [Scalar α] in
/-- **The machine together with the calls of what it has performed.** -/
def logged (m : Machine σ α) : Machine (σ × List (Call α)) α where
  size := m.size
  bindings := m.bindings
  lanes := m.lanes
  memory := (m.memory, m.performed.flatMap calls)
  pending := m.pending
  waiting := m.waiting
  unasked := m.unasked
  results := m.results
  performed := m.performed

omit [Scalar α] in
theorem issuer?_logged (d : Discipline) (m : Machine σ α) :
    (m.logged calls).issuer? d = (m.issuer? d).map (logged calls) := by
  obtain ⟨size, bindings, lanes, memory, pending, waiting, unasked, results, performed⟩ := m
  rcases waiting with _ | stage
  · rcases pending with _ | ⟨_ | _, rest⟩ <;> rfl
  · rcases unasked with _ | ⟨s, others⟩
    · simp only [issuer?, Option.map_map]
      rfl
    · rfl

/-- A worker's move, if it makes the calls of its operation. -/
theorem worker?_logged (ops : Operators σ α) {t : StreamIndex}
    (h : ∀ lane ∈ m.lanes, lane.stream.index = t → ∀ x ∈ lane.work,
      lane.stream.worker.calls x = calls x) :
    (m.logged calls).worker? ops.logged t = (m.worker? ops t).map (logged calls) := by
  unfold worker?
  cases hlane : m.lanes.find? (·.stream.index = t) with
  | none => simp [logged, hlane]
  | some lane =>
    obtain ⟨hmem, hi⟩ := mem_of_lane? hlane
    simp only [logged, hlane, Option.bind_eq_bind, Option.bind_some, Lane.advance?_logged]
    cases hadv : lane.advance? ops m.memory with
    | none => rfl
    | some r =>
      obtain ⟨lane', memory', performed⟩ := r
      have hcalls : performed.toList.flatMap lane.stream.worker.calls
          = performed.toList.flatMap calls := by
        refine List.flatMap_congr fun x hx => h lane hmem hi x ?_
        exact Lane.mem_work_of_advance? hadv (Option.mem_toList.mp hx)
      simp [hcalls, logged, List.flatMap_append]

end Machine

/-! ## Steps -/

omit [Scalar α] in
/-- The progress of a step with another pool. -/
def Progress.onPool {τ : Type} (p : Progress σ α) (pool : Pool τ α) : Progress τ α where
  pool := pool
  clock := p.clock
  phase := p.phase
  metrics := p.metrics
  events := p.events

omit [Scalar α] in
/-- Commands with their answers do not look at the pool. -/
theorem Progress.replay_onPool {τ : Type} (pool : Pool τ α) (commands : List (Command α)) :
    ∀ (answers : List (Except StepError Unit)) (p : Progress σ α),
      replay commands answers (p.onPool pool)
        = ((replay commands answers p).1, (replay commands answers p).2.onPool pool) := by
  induction commands with
  | nil => exact fun _ _ => rfl
  | cons command rest ih =>
    intro answers p
    cases command with
    | enter stage call => exact ih answers (p.enter stage call)
    | report event => exact ih answers (p.report event)
    | refuse error => rfl
    | ask request =>
      rcases answers with _ | ⟨_ | _, answers⟩
      · rfl
      · rfl
      · exact ih answers { p with metrics := p.metrics.count request }

namespace Stepper

/-- **The stepper with collaborators that write down their calls.** -/
def logged (s : Stepper σ α) : Stepper (σ × List (Call α)) α where
  plan := s.plan
  operators := s.operators.logged
  outerBoundary := s.outerBoundary
  streams := s.streams
  blockSize := s.blockSize
  phase := s.phase
  poisoned := s.poisoned
  lastMetrics := s.lastMetrics
  streams_pos := s.streams_pos
  blockSize_pos := s.blockSize_pos
  blockSize_le := s.blockSize_le

end Stepper

/-- The end of a step, with a log. -/
def Advance.logged (a : Advance σ α) (log : List (Call α)) : Advance (σ × List (Call α)) α where
  result := a.result
  stepper := a.stepper.logged
  clock := a.clock
  grids := a.grids
  memory := (a.memory, log)
  events := a.events

namespace Stepper

variable (s : Stepper σ α) (clock : Clock α) (grids : List (Grid α)) (memory : σ)

/-- The calls of an operation on the grid in a slot. -/
def callsOf (x : Nat × Op α) : List (Call α) :=
  (grids[x.1]?).elim [] (x.2.calls (s.home grids x.1) ·)

/-- **The operations a step carries out** under a schedule, with their slots, in order. -/
def carriedOut (schedule : Schedule) : List (Nat × Op α) :=
  if s.poisoned then [] else (s.machine clock grids memory schedule).performed

variable {s clock grids memory} {m : Machine σ α} {before current : List (Request α)}

/-- The worker of a stream makes the calls that are due. -/
theorem calls_eq_callsOf (h : m.Follows s.operators (Worker.fresh s.streams grids) (s.home grids)
      (s.requests clock grids memory) before current) {lane : Lane α} (hmem : lane ∈ m.lanes)
    {x : Nat × Op α} (hx : x ∈ lane.work) : lane.stream.worker.calls x = s.callsOf grids x := by
  obtain ⟨past, turns, hrec, -⟩ := h.lanes lane hmem
  obtain ⟨b, call, hsubmit, hb, hslot⟩ :=
    Request.mem_workFor.mp (hrec.begun.subset (List.mem_append_right _ hx))
  obtain ⟨stage, -, e, he, rfl, -, -⟩ :=
    mem_requests (h.answers.isPrefix.subset (List.mem_append_right _ hsubmit))
  -- the worker is where its turns took it, so it has a grid of the right shape
  have hqueue : lane.queue ≠ [] := by
    rintro hq
    rw [Lane.work, hq] at hx
    cases hx
  obtain ⟨g, hg, hfits⟩ := (holds_fresh.after s.operators (past ++ turns)) (Pool.bind s.streams e)
    (mem_places.mpr ⟨e, he, rfl, hb⟩)
  rw [← (hrec.worker_eq (.inl hqueue)).1, hslot] at hg
  have hgrid : grids[x.1]? = some e.2 := hslot ▸ Pool.mem_slots.mp he
  have hhome : s.home grids x.1 = lane.stream.worker.stream := by
    rw [← hslot]
    exact (home_of_mem he).trans hb
  rw [Worker.calls, hg, callsOf, hgrid, hhome]
  exact Op.calls_of_fits hfits ⟨rfl, rfl⟩ _ _

/-- **A move with logs is the move without them**, and the log is the calls of what was
performed. -/
theorem move?_logged (h : m.Follows s.operators (Worker.fresh s.streams grids) (s.home grids)
      (s.requests clock grids memory) before current) (actor : Actor) :
    (m.logged (s.callsOf grids)).move? s.operators.logged .stop actor
      = (m.move? s.operators .stop actor).map (Machine.logged (s.callsOf grids)) := by
  cases actor with
  | issuer => exact Machine.issuer?_logged _ .stop m
  | worker t =>
    exact Machine.worker?_logged _ s.operators fun lane hmem _ x hx => calls_eq_callsOf h hmem hx

theorem run_logged (h : m.Follows s.operators (Worker.fresh s.streams grids) (s.home grids)
      (s.requests clock grids memory) before current) (schedule : Schedule) :
    (m.logged (s.callsOf grids)).run s.operators.logged .stop schedule
      = (m.run s.operators .stop schedule).logged (s.callsOf grids) := by
  induction schedule generalizing m before current with
  | nil => rfl
  | cons actor schedule ih =>
    rw [Machine.run_cons, Machine.run_cons, move?_logged h]
    cases hmove : m.move? s.operators .stop actor with
    | none => exact ih h
    | some m' =>
      obtain ⟨_, _, h'⟩ :=
        Machine.follows_of_move? (s.orderly_requests clock grids memory) h hmove
      exact ih h'

/-- The machine of a step with logs. -/
theorem machine_logged (s : Stepper σ α) (clock : Clock α) (grids : List (Grid α)) (memory : σ)
    (schedule : Schedule) :
    s.logged.machine clock grids (memory, []) schedule
      = (s.machine clock grids memory schedule).logged (s.callsOf grids) :=
  run_logged (Machine.follows_start s.streams grids memory stream_mem_indices) schedule

/-- A step with logs ends as the step without them. -/
theorem conclude_logged (s : Stepper σ α) (clock : Clock α) (grids : List (Grid α)) (memory : σ)
    (m : Machine σ α) (calls : Nat × Op α → List (Call α)) :
    s.logged.conclude clock grids (memory, []) m.results (m.logged calls).pool
      = (s.conclude clock grids memory m.results m.pool).logged (m.performed.flatMap calls) := by
  have hreplay : (s.logged.begin clock grids (memory, [])).replay
        (s.plan.stages.flatMap (s.stageCommands clock grids)) m.results
      = (((s.begin clock grids memory).replay
          (s.plan.stages.flatMap (s.stageCommands clock grids)) m.results).1,
        ((s.begin clock grids memory).replay
          (s.plan.stages.flatMap (s.stageCommands clock grids)) m.results).2.onPool
            (s.logged.begin clock grids (memory, [])).pool) :=
    Progress.replay_onPool _ _ m.results (s.begin clock grids memory)
  have hcommands : s.logged.plan.stages.flatMap (s.logged.stageCommands clock grids)
      = s.plan.stages.flatMap (s.stageCommands clock grids) := rfl
  rw [conclude, conclude, commands_begin, commands_begin, hcommands, hreplay]
  rcases (s.begin clock grids memory).replay
    (s.plan.stages.flatMap (s.stageCommands clock grids)) m.results with ⟨_ | _, p⟩ <;> rfl

/-- **A step with logs ends as the step without them**, under every schedule, and its log is the
calls of what it carried out. -/
theorem stepUnder_logged (s : Stepper σ α) (clock : Clock α) (grids : List (Grid α)) (memory : σ)
    (schedule : Schedule) :
    s.logged.stepUnder clock grids (memory, []) schedule
      = (s.stepUnder clock grids memory schedule).map (·.logged
        ((s.carriedOut clock grids memory schedule).flatMap (s.callsOf grids))) := by
  by_cases hp : s.poisoned = true
  · rw [stepUnder_of_poisoned (s := s.logged) hp, stepUnder_of_poisoned hp, carriedOut, if_pos hp]
    rfl
  · rw [stepUnder_eq (s := s.logged) hp, stepUnder_eq hp, carriedOut, if_neg hp, machine_logged,
      show ((s.machine clock grids memory schedule).logged (s.callsOf grids)).isFinished
        = (s.machine clock grids memory schedule).isFinished from rfl]
    split
    · exact congrArg some (conclude_logged s clock grids memory _ _)
    · rfl

end Stepper

end MethodOfLines
