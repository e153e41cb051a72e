import MethodOfLines.Proofs.Standing
import MethodOfLines.Proofs.Twins
import MethodOfLines.Stepper.Run

/-!
# Proofs/Restart — a run goes on from its states, its count and its step

What a step asks for is a beginning of its rounds, which read no scratch buffer that they have not
written; so pools over grids with the same states are twins for it (`Stepper.tracks_requests`), and
the step ends alike (`Stepper.Twin.step`).  The phase a stepper is in and the metrics it kept are
not looked at.  Hence whole runs from the same states go on alike (`Run.Continues.twin`), and a new
stepper and a resumed clock take over from those of a run (`Course.exists_twin`,
`Course.resume_eq`).
-/

namespace MethodOfLines

variable {σ α : Type} [Scalar α]

/-! ## One step -/

omit [Scalar α] in
theorem Binding.launch_eq_ok_iff {b : Binding α} {blockSize : Nat} {stage : Stage α}
    {work : Launch} : b.launch blockSize stage = .ok work
      ↔ Launch.forGrid b.descriptor b.fields blockSize = .ok work := by
  rw [launch]
  cases Launch.forGrid b.descriptor b.fields blockSize <;> simp [Except.mapError]

omit [Scalar α] in
theorem Binding.map_snd_round (blockSize : Nat) (policy : Descriptor α → BoundaryPolicy)
    (stage : Stage α) (call : StageCall α) (b : Binding α) :
    (b.round blockSize policy stage call).map Prod.snd
      = .sync b.descriptor :: b.row blockSize policy stage call := by
  rw [round, List.map_map]
  exact List.map_id _

omit [Scalar α] in
theorem Pool.streamsUsed_spawn (size : Nat) (grids : List (Grid α)) (memory : σ) :
    (spawn size grids memory).streamsUsed
      = (Stream.indices ((slots grids).map (bind size))).length := by
  rw [streamsUsed, ← indices_spawn size grids memory, indices, List.length_map]

namespace Stepper

variable {s s' : Stepper σ α} {grids grids' : List (Grid α)}

/-- The rounds of a grid end alike on grids with the same state. -/
theorem tracks_agenda (ho : s.operators.rhs.Overwrites) (hf : s.operators.boundary.Functional)
    (clock : Clock α) {e : Nat × Grid α} (he : e ∈ Pool.slots grids) {g' : Grid α}
    (hg : e.2.Retains g') :
    Op.Tracks s.operators (((Request.workFor (Pool.bind s.streams e).stream
      (s.agenda clock grids)).filter (·.1 = e.1)).map Prod.snd) e.2 g' := by
  have hrounds := Op.confined_rounds ho hf (Pool.bind s.streams e) s.blockSize s.policyOf
    (t := s.plan.tableau) (callAt clock)
    (fun i => exists_congr fun work => Binding.launch_eq_ok_iff.symm) (Nat.zero_add _)
  simp only [filter_workFor_agenda he, List.map_flatMap, Binding.map_snd_round, Plan.stages,
    List.flatMap_map, List.range_eq_range']
  exact hrounds hg.shares

/-- **What a step does to a grid ends alike on grids with the same state**, however far it comes. -/
theorem tracks_requests (ho : s.operators.rhs.Overwrites) (hf : s.operators.boundary.Functional)
    (clock : Clock α) (memory : σ) {e : Nat × Grid α} (he : e ∈ Pool.slots grids) {g' : Grid α}
    (hg : e.2.Retains g') :
    Op.Tracks s.operators (((Request.workFor (Pool.bind s.streams e).stream
      (s.requests clock grids memory)).filter (·.1 = e.1)).map Prod.snd) e.2 g' := by
  have hagenda := tracks_agenda ho hf clock he hg
  obtain ⟨later, hlater⟩ := s.requests_prefix_agenda clock grids memory
  rw [← hlater, Request.workFor_append, List.filter_append, List.map_append] at hagenda
  exact hagenda.of_append

/-- **Steppers that differ at most in their phase and their last metrics.** -/
def Twin (s s' : Stepper σ α) : Prop :=
  ∃ phase metrics, s' = { s with phase, lastMetrics := metrics }

end Stepper

/-- **Ends of a step with the same result, the same clock and the same states.** -/
structure Advance.Twin (a a' : Advance σ α) : Prop where
  result : a'.result = a.result
  clock : a'.clock = a.clock
  stepper : a.stepper.Twin a'.stepper
  grids : List.Forall₂ Grid.Retains a.grids a'.grids

namespace Stepper

variable {s s' : Stepper σ α} {grids grids' : List (Grid α)}

theorem Twin.poisoned (h : s.Twin s') : s'.poisoned = s.poisoned := by
  obtain ⟨phase, metrics, rfl⟩ := h
  rfl

theorem Twin.plan_eq (h : s.Twin s') : s'.plan = s.plan := by
  obtain ⟨phase, metrics, rfl⟩ := h
  rfl

theorem Twin.requests_eq (h : s.Twin s') (hg : List.Forall₂ Grid.Retains grids grids')
    (clock : Clock α) (memory memory' : σ) :
    s'.requests clock grids' memory' = s.requests clock grids memory := by
  obtain ⟨phase, metrics, rfl⟩ := h
  change Command.requests (s.commands clock ((Pool.slots grids').map (Pool.bind s.streams))) = _
  rw [Pool.map_bind_slots hg]
  rfl

/-- Once a step has entered its first stage, the phase it started from is forgotten. -/
theorem Twin.enter_begin (h : s.Twin s') (hg : List.Forall₂ Grid.Retains grids grids')
    (clock : Clock α) (memory memory' : σ) (stage : Stage α) (call : StageCall α) :
    (s'.begin clock grids' memory').enter stage call
      = ((s.begin clock grids memory).enter stage call).onPool
        (Pool.spawn s.streams grids' memory') := by
  obtain ⟨phase, metrics, rfl⟩ := h
  have hused : (Pool.spawn s.streams grids' memory').streamsUsed
      = (Pool.spawn s.streams grids memory).streamsUsed := by
    rw [Pool.streamsUsed_spawn, Pool.streamsUsed_spawn, Pool.map_bind_slots hg]
  simp only [begin, Progress.enter, Progress.report, Progress.onPool, hused, hg.length_eq]

/-- The commands of a step, with the same answers, end alike. -/
theorem Twin.replay_begin (h : s.Twin s') (hg : List.Forall₂ Grid.Retains grids grids')
    (clock : Clock α) (memory memory' : σ) (answers : List (Except StepError Unit)) :
    ∃ pool, (s'.begin clock grids' memory').replay
        (s'.commands clock (s'.begin clock grids' memory').pool.bindings) answers
      = Prod.map id (·.onPool pool) ((s.begin clock grids memory).replay
        (s.commands clock (s.begin clock grids memory).pool.bindings) answers) := by
  obtain ⟨stages, hstages⟩ := s.exists_stages_eq_cons
  obtain ⟨rest, hrest⟩ : ∃ rest, s.commands clock (s.begin clock grids memory).pool.bindings
      = .enter (s.plan.tableau.stage 0) (callAt clock (s.plan.tableau.stage 0)) :: rest :=
    ⟨_, by rw [commands_begin, hstages, List.flatMap_cons]; rfl⟩
  have hrest' : s'.commands clock (s'.begin clock grids' memory').pool.bindings
      = .enter (s.plan.tableau.stage 0) (callAt clock (s.plan.tableau.stage 0)) :: rest := by
    obtain ⟨phase, metrics, rfl⟩ := h
    change s.commands clock ((Pool.slots grids').map (Pool.bind s.streams)) = _
    rw [Pool.map_bind_slots hg]
    exact hrest
  rw [hrest, hrest', Progress.replay, Progress.replay, h.enter_begin hg clock memory memory']
  exact ⟨_, Progress.replay_onPool ..⟩

theorem Twin.conclude (h : s.Twin s') (hg : List.Forall₂ Grid.Retains grids grids')
    (clock : Clock α) (memory memory' : σ) (answers : List (Except StepError Unit))
    {pool pool' : Pool σ α} (hpool : pool.Twin s.operators [] pool') :
    (s.conclude clock grids memory answers pool).Twin
      (s'.conclude clock grids' memory' answers pool') := by
  obtain ⟨left, hreplay⟩ := h.replay_begin hg clock memory memory' answers
  obtain ⟨phase, metrics, rfl⟩ := h
  rw [Stepper.conclude, Stepper.conclude, hreplay]
  rcases (s.begin clock grids memory).replay
    (s.commands clock (s.begin clock grids memory).pool.bindings) answers with ⟨e | _, p⟩
  · exact ⟨rfl, rfl, ⟨p.phase, metrics, rfl⟩, hpool.grids⟩
  · exact ⟨rfl, rfl, ⟨.complete, p.metrics, rfl⟩, hpool.grids⟩

/-- **A step from the same states ends alike**, and leaves the same states. -/
theorem Twin.step (h : s.Twin s') (ho : s.operators.rhs.Overwrites)
    (hf : s.operators.boundary.Functional) (hg : List.Forall₂ Grid.Retains grids grids')
    (clock : Clock α) (memory memory' : σ) :
    (s.step clock grids memory).Twin (s'.step clock grids' memory') := by
  have hrequests := h.requests_eq hg clock memory memory'
  obtain ⟨hanswers, hpool⟩ := Pool.Twin.serveAll _ (Pool.twin_spawn hg memory memory'
    fun e he g' => tracks_requests ho hf clock memory he)
  cases hp : s.poisoned with
  | true =>
    obtain ⟨phase, metrics, rfl⟩ := h
    rw [Stepper.step, if_pos hp, Stepper.step, if_pos hp]
    exact ⟨rfl, rfl, ⟨phase, metrics, rfl⟩, hg⟩
  | false =>
    have hserve : Pool.serveAll s'.operators .stop (s'.requests clock grids' memory')
          (Pool.spawn s'.streams grids' memory')
        = ((Pool.serveAll s.operators .stop (s.requests clock grids memory)
            (Pool.spawn s.streams grids memory)).1,
          (Pool.serveAll s.operators .stop (s.requests clock grids memory)
            (Pool.spawn s.streams grids' memory')).2) := by
      obtain ⟨phase, metrics, rfl⟩ := h
      rw [hrequests]
      exact Prod.ext hanswers rfl
    rw [step_eq_conclude hp (Prod.eta _).symm, step_eq_conclude (h.poisoned.trans hp) hserve]
    exact h.conclude hg clock memory memory' _ hpool

end Stepper

/-! ## Whole runs -/

namespace Stepper

variable {s s' : Stepper σ α} {clock : Clock α} {grids grids' : List (Grid α)} {memory memory' : σ}
  {a a' : Advance σ α}

theorem Ends.operators_eq (h : s.Ends clock grids memory a) :
    a.stepper.operators = s.operators := by
  rcases h.cases with ⟨-, rfl⟩ | ⟨-, metrics, -, -, hs⟩ | ⟨-, e, n, -, -, -, hs⟩
  · rfl
  · rw [hs]
  · rw [hs]

/-- **Whatever their schedules, steps from the same states end alike.** -/
theorem Twin.ends (h : s.Twin s') (hf : s.operators.Functional)
    (hc : ∀ g ∈ grids, s.operators.NeverCrashOn g) (ho : s.operators.rhs.Overwrites)
    (hg : List.Forall₂ Grid.Retains grids grids') (ha : s.Ends clock grids memory a)
    (ha' : s'.Ends clock grids' memory' a') : a.Twin a' := by
  have hoperators : s'.operators = s.operators := by
    obtain ⟨phase, metrics, rfl⟩ := h
    rfl
  have hstep := h.step ho hf.boundary hg clock memory memory'
  obtain ⟨schedule, ha⟩ := ha
  obtain ⟨schedule', ha'⟩ := ha'
  have hagrees := agrees_of_stepUnder hf hc ha
  have hc' : ∀ g ∈ grids', s.operators.NeverCrashOn g :=
    List.forall_mem_of_forall₂ hg (fun hr hx => hx.refills hr.refills) hc
  have hagrees' := agrees_of_stepUnder (hoperators ▸ hf) (hoperators ▸ hc') ha'
  refine ⟨?_, ?_, ?_, ?_⟩
  · rw [hagrees.result, hagrees'.result, hstep.result]
  · rw [hagrees.clock, hagrees'.clock, hstep.clock]
  · rw [hagrees.stepper, hagrees'.stepper]
    exact hstep.stepper
  · rw [hagrees.grids, hagrees'.grids]
    exact hstep.grids

end Stepper

/-- **Steps one after the other**, each as some schedule has it end. -/
inductive Run.Continues : Run σ α → List (Advance σ α) → Prop where
  | nil (r : Run σ α) : Continues r []
  | cons {r : Run σ α} {a : Advance σ α} {l : List (Advance σ α)}
      (ha : r.stepper.Ends r.clock r.grids r.memory a)
      (h : Continues ⟨a.stepper, a.clock, a.grids, a.memory⟩ l) : Continues r (a :: l)

namespace Run

/-- A run can always go on. -/
theorem exists_continues (n : Nat) : ∀ r : Run σ α, ∃ l, l.length = n ∧ r.Continues l := by
  induction n with
  | zero => exact fun r => ⟨[], rfl, .nil r⟩
  | succ n ih =>
    intro r
    obtain ⟨l, hl, hcont⟩ := ih r.step.2.2
    exact ⟨r.stepper.step r.clock r.grids r.memory :: l, congrArg (· + 1) hl,
      .cons (r.stepper.ends_step ..) hcont⟩

/-- Where a run stands after some steps. -/
def after (r : Run σ α) : List (Advance σ α) → Run σ α
  | [] => r
  | a :: l => after ⟨a.stepper, a.clock, a.grids, a.memory⟩ l

/-- **Whatever the workers have done, the step comes to its end and the run goes on.** -/
theorem Continues.exists_concat {r : Run σ α} {l : List (Advance σ α)} (h : r.Continues l)
    (schedule : Schedule) :
    ∃ more a, (r.after l).stepper.stepUnder (r.after l).clock (r.after l).grids (r.after l).memory
        (schedule ++ more) = some a ∧ r.Continues (l ++ [a]) := by
  induction h with
  | nil r =>
    obtain ⟨more, hsome⟩ :=
      r.stepper.exists_stepUnder_append r.clock r.grids r.memory schedule
    obtain ⟨a, ha⟩ := Option.isSome_iff_exists.mp hsome
    exact ⟨more, a, ha, .cons ⟨_, ha⟩ (.nil _)⟩
  | cons ha _ ih =>
    obtain ⟨more, b, hb, hcont⟩ := ih
    exact ⟨more, b, hb, .cons ha hcont⟩

/-- **Runs from the same states go on alike.** -/
theorem Continues.twin {r : Run σ α} {l : List (Advance σ α)} (h : r.Continues l) :
    ∀ {r' : Run σ α} {l' : List (Advance σ α)}, r'.Continues l' → l.length = l'.length →
      r.stepper.operators.Functional →
      (∀ g ∈ r.grids, r.stepper.operators.NeverCrashOn g) →
      r.stepper.operators.rhs.Overwrites → r.stepper.Twin r'.stepper → r'.clock = r.clock →
      List.Forall₂ Grid.Retains r.grids r'.grids → List.Forall₂ Advance.Twin l l' := by
  induction h with
  | nil r =>
    intro r' l' _ hlength _ _ _ _ _ _
    rw [List.eq_nil_of_length_eq_zero hlength.symm]
    exact .nil
  | @cons r a l ha _ ih =>
    intro r' l' h' hlength hf hc ho hs hclock hg
    cases h' with
    | nil => cases hlength
    | cons ha' hrest' =>
      rw [hclock] at ha'
      have htwin := hs.ends hf hc ho hg ha ha'
      have hoperators := ha.operators_eq
      have hc' := List.forall_mem_of_forall₂ ha.forall₂_refills (fun hr hx => hx.refills hr) hc
      exact .cons htwin (ih hrest' (Nat.succ.inj hlength) (hoperators ▸ hf) (hoperators ▸ hc')
        (hoperators ▸ ho) htwin.stepper htwin.clock htwin.grids)

end Run

namespace Course

variable {c : Config σ α} {i₀ : Nat} {dt : α} {s : Stepper σ α} {clock : Clock α}
  {results : List (Except StepError (Report α))}

/-- The stepper of a course is a new one but for its phase, its poison and its last metrics. -/
theorem exists_make (h : Course c i₀ dt s clock results) :
    ∃ s₀ events, Stepper.make c = .ok (s₀, events)
      ∧ ∃ phase poisoned metrics, s = { s₀ with phase, poisoned, lastMetrics := metrics } := by
  induction h with
  | @start s₀ events _ hs _ => exact ⟨s₀, events, hs, s₀.phase, s₀.poisoned, s₀.lastMetrics, rfl⟩
  | recompute _ ih => exact ih
  | step _ ha ih =>
    obtain ⟨s₀, events, hs₀, phase, poisoned, metrics, rfl⟩ := ih
    refine ⟨s₀, events, hs₀, ?_⟩
    rcases ha.cases with ⟨-, rfl⟩ | ⟨-, metrics', -, -, hs⟩ | ⟨-, e, n, -, -, -, hs⟩
    · exact ⟨phase, poisoned, metrics, rfl⟩
    · exact ⟨.complete, poisoned, metrics', hs⟩
    · exact ⟨.awaitingStage n, true, metrics, hs⟩

/-- The clock of a course is the one resumed from its count. -/
theorem resume_eq (h : Course c i₀ dt s clock results) :
    Clock.resume clock.iteration dt = .ok clock := by
  obtain ⟨reports, hstanding⟩ := h.exists_standing
  have hvalid : (Scalar.isFinite dt && Scalar.isPositive dt) = true := by
    clear hstanding
    induction h with
    | start _ hc =>
      rw [Clock.resume] at hc
      split at hc
      · assumption
      · cases hc
    | step _ _ ih => exact ih
    | recompute _ ih => exact ih
  obtain ⟨time, step, iteration⟩ := clock
  obtain rfl : step = dt := hstanding.step
  obtain rfl : time = Clock.timeAt iteration step := hstanding.time
  exact if_pos hvalid

/-- A course without a failure has not poisoned its stepper. -/
theorem poisoned_eq_false (h : Course c i₀ dt s clock results)
    (hok : ∀ result ∈ results, ∃ report, result = .ok report) : s.poisoned = false := by
  obtain ⟨reports, hstanding⟩ := h.exists_standing
  rcases hstanding.outcome with ⟨-, hp, -⟩ | ⟨e, n, k, hresults, -, -, -⟩
  · exact hp
  · obtain ⟨report, hreport⟩ := hok (.error e) (by simp [hresults])
    cases hreport

/-- **A new stepper takes the place of one whose steps all succeeded.** -/
theorem exists_twin (h : Course c i₀ dt s clock results)
    (hok : ∀ result ∈ results, ∃ report, result = .ok report) :
    ∃ s' events, Stepper.make c = .ok (s', events) ∧ s.Twin s' := by
  have hp := h.poisoned_eq_false hok
  obtain ⟨s', events, hmake, phase, poisoned, metrics, rfl⟩ := h.exists_make
  obtain rfl : poisoned = s'.poisoned := hp.trans (Stepper.of_make hmake).2.1.symm
  exact ⟨s', events, hmake, s'.phase, s'.lastMetrics, rfl⟩

/-- **A run goes on from its states, its count and its step.**  If every step of a course succeeded,
a new stepper of the configuration and a clock resumed from the count take the place of the stepper
and the clock, and grids with the same states that of the grids, whatever their other buffers hold
and whatever the collaborators remember: any number of further steps can be taken, and each has the
same result, leaves the same clock and leaves the same states as if the run had gone on. -/
theorem restart_continues (h : Course c i₀ dt s clock results)
    (hok : ∀ result ∈ results, ∃ report, result = .ok report)
    (hf : c.operators.Functional) (ho : c.rhs.Overwrites) :
    ∃ s' events clock', Stepper.make c = .ok (s', events)
      ∧ Clock.resume clock.iteration dt = .ok clock' ∧ clock' = clock
      ∧ ∀ {grids grids' : List (Grid α)}, (∀ g ∈ grids, c.operators.NeverCrashOn g) →
        List.Forall₂ Grid.Retains grids grids' → ∀ memory memory',
          (∀ n, ∃ l', l'.length = n ∧ Run.Continues ⟨s', clock', grids', memory'⟩ l')
            ∧ ∀ {l l'}, Run.Continues ⟨s, clock, grids, memory⟩ l →
              Run.Continues ⟨s', clock', grids', memory'⟩ l' → l.length = l'.length →
              List.Forall₂ Advance.Twin l l' := by
  obtain ⟨s', events, hmake, htwin⟩ := h.exists_twin hok
  have hoperators : s.operators = c.operators := by
    rw [← (Stepper.of_make hmake).2.2.2]
    obtain ⟨phase, metrics, rfl⟩ := htwin
    rfl
  refine ⟨s', events, clock, hmake, h.resume_eq, rfl, fun {grids grids'} hc hg memory memory' =>
    ⟨fun n => Run.exists_continues n _, fun hl hl' hlength => ?_⟩⟩
  exact hl.twin hl' hlength (hoperators ▸ hf) (fun g hg => hoperators ▸ hc g hg)
    (hoperators ▸ ho) htwin rfl hg

/-- Five steps of a half are behind, and one more is taken over grids 0 and 3.  From there, and from
the same states with zeros beside them, the next step succeeds, the one after it fails in its second
stage because there are no rates so late, and the third is refused. -/
theorem restart_continues_heunThird :
    let rhs : Rhs Unit Rat :=
      ⟨"early", fun ctx x out memory =>
        if 7 / 2 < ctx.time then ⟨.failed (.executionFailed "too late"), out, memory⟩
        else (Rhs.affine 1 2 3).evaluate ctx x out memory⟩
    let c : Config Unit Rat :=
      { scheme := .heunThird, streamPoolSize := 2, blockSize := 1, checkFinite := true, rhs }
    let s : Stepper Unit Rat := .heunThird c.rhs c.boundary
    let a := s.step ⟨5 / 2, 1 / 2, 5⟩
      [Grid.pair 0 .radiation 1 2, Grid.pair 3 .extrapolation 3 4] ()
    let wiped := a.grids.map fun g =>
      g.setBuffers { Buffers.fill _ 0 with state := g.functions.buffers.state }
    let next := fun r : Run Unit Rat => r.stepper.step r.clock r.grids r.memory
    let run := fun r : Run Unit Rat => [next r, next r.step.2.2, next r.step.2.2.step.2.2]
    ((a.result.map fun _ => ()) = .ok ()
        ∧ (run ⟨a.stepper, a.clock, a.grids, ()⟩).map (fun b => b.result.map fun _ => ())
          = [.ok (), .error (.rhsFailed 0 2 (.executionFailed "too late")), .error .poisoned])
      ∧ Course c 5 (1 / 2) a.stepper a.clock [a.result]
      ∧ List.Forall₂ Grid.Retains a.grids wiped
      ∧ List.Forall₂ Advance.Twin (run ⟨a.stepper, a.clock, a.grids, ()⟩)
        (run ⟨s, a.clock, wiped, ()⟩) := by
  intro rhs c s a wiped next run
  have hs : Stepper.make c = .ok (s, Stepper.building c s.plan none) := rfl
  have hresume : Clock.resume 5 (1 / 2 : Rat) = .ok ⟨5 / 2, 1 / 2, 5⟩ := by cbv
  have hcourse : Course c 5 (1 / 2) a.stepper a.clock [a.result] :=
    (Course.start hs hresume).step (s.ends_step _ _ _)
  have hresults : (a.result.map fun _ => ()) = .ok ()
      ∧ (run ⟨a.stepper, a.clock, a.grids, ()⟩).map (fun b => b.result.map fun _ => ())
        = [.ok (), .error (.rhsFailed 0 2 (.executionFailed "too late")), .error .poisoned] := by
    decide +kernel
  have hok : ∀ result ∈ [a.result], ∃ report, result = .ok report := by
    intro result hmem
    rw [List.mem_singleton.mp hmem]
    exact Advance.exists_report_of_map hresults.1
  have hwiped : List.Forall₂ Grid.Retains a.grids wiped :=
    List.forall₂_map_right_iff.mpr (List.forall₂_same.mpr fun g _ => ⟨_, rfl, rfl⟩)
  have hc : ∀ g ∈ a.grids, c.operators.NeverCrashOn g := by
    refine fun g _ => ⟨fun ctx _ _ x out memory => ?_, fun _ _ _ _ _ _ => ?_, fun _ _ _ _ _ => ?_⟩
    · by_cases hlate : 7 / 2 < ctx.time <;> simp [c, Config.operators, rhs, hlate, Rhs.affine]
    · simp [c, Config.operators, Enforcer.none]
    · simp [c, Config.operators, Enforcer.none]
  have ho : c.rhs.Overwrites := by
    intro n ctx x out out' memory memory'
    by_cases hlate : 7 / 2 < ctx.time
    · simp [c, rhs, hlate]
    · simpa only [c, rhs, if_neg hlate] using
        (Rhs.computes_affine 1 2 3).overwrites ctx x out out' memory memory'
  have hrun : ∀ r, Run.Continues r (run r) ∧ (run r).length = 3 := fun r =>
    ⟨.cons (r.stepper.ends_step ..) (.cons (Stepper.ends_step ..)
      (.cons (Stepper.ends_step ..) (.nil _))), rfl⟩
  obtain ⟨s', events, clock', hmake, -, hclock, hruns⟩ :=
    restart_continues hcourse hok (Operators.functional _) ho
  obtain ⟨hnew, -⟩ := Prod.mk.inj (Except.ok.inj (hs.symm.trans hmake))
  have htwins := (hruns hc hwiped () ()).2 (hrun ⟨a.stepper, a.clock, a.grids, ()⟩).1
    (hrun ⟨s', clock', wiped, ()⟩).1 ((hrun _).2.trans (hrun _).2.symm)
  rw [← hnew, hclock] at htwins
  exact ⟨hresults, hcourse, hwiped, htwins⟩

end Course

end MethodOfLines
