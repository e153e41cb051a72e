import MethodOfLines.Proofs.Rounds
import MethodOfLines.Proofs.Standing
import MethodOfLines.Proofs.Upcoming

/-!
# Proofs/Crashes — in a step only calls that crash lose a stream

In a step a worker is lost in one way only: a collaborator it calls crashes.  Everything else a
worker might crash on is excluded by the agenda: it owns the grids it works on, reads and writes
different buffers, and runs kernels under the grid's own parameters (`Stepper.lost_perform_iff`).
So a stream is lost at some point of a schedule if and only if a call crashed on it before
(`Stepper.lost_machine_iff`).
-/

namespace MethodOfLines

variable {σ α : Type} [Scalar α]

/-! ## Calls that crash -/

theorem Outcome.verdict_eq_crashed {wrap : EvalError → StepError} {o : Outcome} :
    o.verdict wrap = .crashed ↔ o = .crashed := by
  cases o <;> simp [verdict]

/-- **What becomes of the call an operation makes** of a collaborator, if it makes one. -/
def Op.callOutcome? (ops : Operators σ α) (stream : StreamIndex) (g : Grid α) (memory : σ) :
    Op α → Option Outcome
  | .evaluateRhs call input output =>
    (g.functions.buffers.pair? input output).map fun (x, out) =>
      (ops.rhs.evaluate (context stream call g) x out memory).outcome
  | .applyRadiation call input output =>
    (g.functions.buffers.pair? input output).map fun (x, out) =>
      (ops.boundary.applyRadiation (context stream call g) x out memory).outcome
  | .applyBoundary call target =>
    some (ops.boundary.apply (context stream call g) (g.functions.buffer target) memory).outcome
  | .syncParams _ | .launch .. => none

/-- **In a row only calls crash.** -/
theorem Binding.crashed_execute_iff (ops : Operators σ α) {b : Binding α} {blockSize : Nat}
    {policy : Descriptor α → BoundaryPolicy} {stage : Stage α} {call : StageCall α} {op : Op α}
    (hop : op ∈ b.row blockSize policy stage call) {g : Grid α} (hg : b.Fits g) (memory : σ) :
    (op.execute ops b.stream (some (.ofDescriptor b.descriptor)) g memory).verdict = .crashed
      ↔ op.callOutcome? ops b.stream g memory = some .crashed := by
  have hpair := g.functions.buffers.pair?_of_ne stage.rhsInput_ne_rhsOutput
  rcases cases_of_mem_row blockSize policy stage call hop with
    rfl | rfl | ⟨work, hwork, rfl⟩ | rfl
  · simp only [Op.rates, Op.execute, Op.executeRhs, Op.callOutcome?, hpair, Option.map_some,
      Option.some.injEq]
    split
    · next hdone _ =>
      -- a search of the values can fail, but not crash
      rw [hdone]
      split <;> simp
    · exact Outcome.verdict_eq_crashed
  · simp only [Op.radiation, Op.execute, Op.executeRadiation, Op.callOutcome?, hpair,
      Option.map_some, Option.some.injEq, Outcome.verdict_eq_crashed]
  · simp only [Op.kernel, Op.execute, executeLaunch_eq hwork hg, Op.callOutcome?]
    split <;> simp
  · simp only [Op.boundary, Op.execute, Op.executeBoundary, Op.callOutcome?, Option.some.injEq,
      Outcome.verdict_eq_crashed]

/-- **The next move on a stream is a call that crashes.** -/
def Machine.CrashesNext (ops : Operators σ α) (m : Machine σ α) (t : StreamIndex) : Prop :=
  ∃ lane slot op g, m.Upcoming lane slot op ∧ lane.stream.index = t
    ∧ lane.stream.worker.grid? slot = some g ∧ op.callOutcome? ops t g m.memory = some .crashed

/-! ## The streams of a step -/

namespace Stepper

variable {s : Stepper σ α} {clock : Clock α} {grids : List (Grid α)} {memory : σ}
  {m : Machine σ α} {before current : List (Request α)} {schedule : Schedule} {t : StreamIndex}

/-- What is at the front of a queue is what comes next on the agenda. -/
theorem isPrefix_of_queue (h : m.Follows s.operators (Worker.fresh s.streams grids) (s.home grids)
      (s.requests clock grids memory) before current) {lane : Lane α} {past turns : List (Turn σ α)}
    (hrec : lane.Recalls s.operators (Worker.fresh s.streams grids lane.stream.index)
      (Request.workFor lane.stream.index before) (Request.workFor lane.stream.index current) past
      turns) {slot : Nat} {op : Op α} {rest : List (Message α)}
    (hq : lane.queue = .work slot op :: rest) :
    (past ++ turns).map Turn.work ++ [(slot, op)]
      <+: Request.workFor lane.stream.index (s.agenda clock grids) := by
  refine List.IsPrefix.trans ?_ (h.isPrefix_agenda lane.stream.index)
  rw [List.map_append, hrec.elapsed, List.append_assoc, List.prefix_append_right_inj]
  refine List.IsPrefix.trans ?_ hrec.begun
  rw [List.prefix_append_right_inj, Lane.work, hq]
  exact ⟨rest.filterMap Message.work?, rfl⟩

/-- **What is upcoming in a step**: to install the parameters of a grid of the stream, or an
operation of its row under them. -/
theorem exists_place_of_upcoming (h : m.Follows s.operators (Worker.fresh s.streams grids)
      (s.home grids) (s.requests clock grids memory) before current) {lane : Lane α} {slot : Nat}
    {op : Op α} (hup : m.Upcoming lane slot op) :
    ∃ stage ∈ s.plan.stages, ∃ e ∈ Pool.slots grids,
      (Pool.bind s.streams e).stream = lane.stream.index ∧ slot = e.1
        ∧ (∃ g, lane.stream.worker.grid? slot = some g ∧ e.2.Refills g)
        ∧ (op = .sync e.2.descriptor
          ∨ op ∈ (Pool.bind s.streams e).row s.blockSize s.policyOf stage (callAt clock stage)
            ∧ lane.stream.worker.params = some (.ofDescriptor e.2.descriptor)) := by
  obtain ⟨past, turns, hrec, -⟩ := h.lanes lane hup.mem
  obtain ⟨rest, hq⟩ := hup.queue
  have hw := (hrec.worker_eq (.inl (by simp [hq]))).1
  have hs := hup.status
  rw [hw] at hs ⊢
  obtain ⟨stage, hstage, e, he, ht, rfl, hg, hx⟩ :=
    exists_place_of_next (isPrefix_of_queue h hrec hq) hs
  exact ⟨stage, hstage, e, he, ht, rfl, hg, hx⟩

/-- **A worker of a step is lost in an operation if and only if its call crashes.** -/
theorem lost_perform_iff (h : m.Follows s.operators (Worker.fresh s.streams grids) (s.home grids)
      (s.requests clock grids memory) before current) {lane : Lane α} {slot : Nat} {op : Op α}
    (hup : m.Upcoming lane slot op) (now : σ) :
    (lane.stream.worker.perform s.operators slot op now).1.lost = true
      ↔ ∃ g, lane.stream.worker.grid? slot = some g
        ∧ op.callOutcome? s.operators lane.stream.index g now = some .crashed := by
  have hs := hup.status
  obtain ⟨stage, -, e, -, ht, rfl, ⟨g, hg, hrefills⟩, hx⟩ := exists_place_of_upcoming h hup
  simp only [hg, Option.some.injEq, exists_eq_left']
  rcases hx with rfl | ⟨hx, hparams⟩
  · -- parameters are installed without a call
    rw [Op.sync, Worker.perform_sync _ hs]
    exact iff_of_false (fun hl => by cases hl.symm.trans (Worker.status_eq_done.mp hs).1)
      fun hcall => by cases hcall
  · have hfits : (Pool.bind s.streams e).Fits g := Pool.fits_bind hrefills _
    rw [Worker.perform_work _ hs hg (Binding.isWork_of_mem_row _ _ _ _ hx),
      ← Worker.status_eq_crashed, Worker.status_settle hs, hparams]
    have hcrashed := Binding.crashed_execute_iff s.operators hx hfits now
    rwa [ht] at hcrashed

/-- A call that crashes takes its stream with it. -/
theorem lost_of_crashesNext (h : m.Follows s.operators (Worker.fresh s.streams grids)
      (s.home grids) (s.requests clock grids memory) before current)
    (hcrash : m.CrashesNext s.operators t) :
    ∃ m', m.worker? s.operators t = some m' ∧ m'.Lost t := by
  obtain ⟨lane, slot, op, g, hup, rfl, hg, hcall⟩ := hcrash
  obtain ⟨lane', hmove, hst⟩ := Machine.worker?_of_upcoming s.operators h.sound hup
  have hindex : lane'.stream.index = lane.stream.index := by
    rw [hst]
    exact Worker.stream_perform ..
  refine ⟨_, hmove, lane', List.mem_map.mpr ⟨lane, hup.mem, if_pos hindex.symm⟩, hindex, ?_⟩
  rw [hst]
  exact (lost_perform_iff h hup m.memory).mpr ⟨g, hg, hcall⟩

/-- **A move of a step loses a stream if and only if it is a call on it that crashes.** -/
theorem lost_move?_iff (h : m.Follows s.operators (Worker.fresh s.streams grids) (s.home grids)
      (s.requests clock grids memory) before current) (actor : Actor) :
    ((m.move? s.operators .stop actor).getD m).Lost t
      ↔ m.Lost t ∨ actor = .worker t ∧ m.CrashesNext s.operators t := by
  constructor
  · intro hl
    cases hmove : m.move? s.operators .stop actor with
    | none => exact .inl (by rwa [hmove] at hl)
    | some m' =>
      rw [hmove, Option.getD_some] at hl
      cases actor with
      | issuer => exact .inl ((Machine.lost_issuer?_iff hmove).mp hl)
      | worker u =>
        refine (hl.of_worker? hmove).imp_right ?_
        rintro ⟨rfl, lane, slot, op, hup, rfl, hlost⟩
        obtain ⟨g, hg, hcall⟩ := (lost_perform_iff h hup m.memory).mp hlost
        exact ⟨rfl, lane, slot, op, g, hup, rfl, hg, hcall⟩
  · rintro (hl | ⟨rfl, hcrash⟩)
    · cases hmove : m.move? s.operators .stop actor with
      | none => exact hl
      | some m' =>
        cases actor with
        | issuer => exact (Machine.lost_issuer?_iff hmove).mpr hl
        | worker u => exact hl.worker? h.sound hmove
    · obtain ⟨m', hmove, hl⟩ := lost_of_crashesNext h hcrash
      rwa [show m.move? s.operators .stop (.worker t) = some m' from hmove]

/-- **A call on a stream crashes in a step**, under a schedule.  A poisoned stepper makes no
calls. -/
def CrashesOn (s : Stepper σ α) (clock : Clock α) (grids : List (Grid α)) (memory : σ)
    (schedule : Schedule) (t : StreamIndex) : Prop :=
  s.poisoned = false ∧ ∃ early late, schedule = early ++ .worker t :: late
    ∧ (s.machine clock grids memory early).CrashesNext s.operators t

theorem crashesOn_concat (hp : s.poisoned = false) (actor : Actor) :
    s.CrashesOn clock grids memory (schedule ++ [actor]) t
      ↔ s.CrashesOn clock grids memory schedule t
        ∨ actor = .worker t
          ∧ (s.machine clock grids memory schedule).CrashesNext s.operators t := by
  constructor
  · rintro ⟨-, early, late, hsplit, hcrash⟩
    obtain rfl | ⟨late, last, rfl⟩ := late.eq_nil_or_concat'
    · obtain ⟨rfl, hactor⟩ := List.append_inj' hsplit rfl
      exact .inr ⟨(List.cons.inj hactor).1, hcrash⟩
    · rw [← List.cons_append, ← List.append_assoc] at hsplit
      obtain ⟨rfl, -⟩ := List.append_inj' hsplit rfl
      exact .inl ⟨hp, early, late, rfl, hcrash⟩
  · rintro (⟨-, early, late, rfl, hcrash⟩ | ⟨rfl, hcrash⟩)
    · exact ⟨hp, early, late ++ [actor], by simp, hcrash⟩
    · exact ⟨hp, schedule, [], rfl, hcrash⟩

/-- **The streams that are lost are those a call crashed on.** -/
theorem lost_machine_iff (hp : s.poisoned = false) :
    (s.machine clock grids memory schedule).Lost t
      ↔ s.CrashesOn clock grids memory schedule t := by
  induction schedule using List.reverseRecOn with
  | nil =>
    refine iff_of_false ?_ ?_
    · rintro ⟨lane, hmem, -, hl⟩
      obtain ⟨st, hst, rfl⟩ := List.mem_map.mp hmem
      obtain ⟨t, -, rfl⟩ := List.mem_map.mp hst
      cases hl
    · rintro ⟨-, early, late, hsplit, -⟩
      simp at hsplit
  | append_singleton schedule actor ih =>
    obtain ⟨before, current, hfollows⟩ := s.follows_machine clock grids memory schedule
    have hmachine : s.machine clock grids memory (schedule ++ [actor])
        = ((s.machine clock grids memory schedule).move? s.operators .stop actor).getD
          (s.machine clock grids memory schedule) := Machine.run_concat ..
    rw [hmachine, lost_move?_iff hfollows, ih, crashesOn_concat hp]

/-- No call crashes in a step, if no collaborator crashes on its grids. -/
theorem not_crashesOn (hc : ∀ g ∈ grids, s.operators.NeverCrashOn g) :
    ¬ s.CrashesOn clock grids memory schedule t := by
  intro hcrash
  obtain ⟨lane, hmem, -, hl⟩ := (lost_machine_iff hcrash.1).mpr hcrash
  obtain ⟨before, current, hfollows⟩ := s.follows_machine clock grids memory schedule
  cases hl.symm.trans (hfollows.lost_eq_false hc lane hmem)

end Stepper

end MethodOfLines
