import MethodOfLines.Proofs.Agenda
import MethodOfLines.Proofs.History
import MethodOfLines.Proofs.Prompt

/-!
# Proofs/Standing — where a stepper and its clock stand after any number of steps

A step **ends** in some way if a schedule of its pool takes it there (`Stepper.Ends`);
`Stepper.step` is one way (`Stepper.ends_step`).  There are three kinds of end
(`Stepper.Ends.cases`): a poisoned stepper refuses and changes nothing; a step that succeeds is
counted by the clock; a step that fails puts the clock back and leaves the stepper poisoned, in the
phase of the stage its error names.

A `Course` is what can become of a new stepper and a clock, over any list of grids at every step.
`Course.standing` says where they stand at any point of it.
-/

namespace MethodOfLines

variable {σ α : Type} [Scalar α]

namespace Machine

omit [Scalar α] in
/-- **An error answers a request of the stage it names.** -/
theorem Answers.stage?_of_mem_zip {requests made : List (Request α)} {m : Machine σ α}
    (h : m.Answers requests made) {x : Request α × Except StepError Unit}
    (hx : x ∈ requests.zip m.results) {e : StepError} (he : x.2 = .error e) :
    e.stage? = some x.1.number := by
  have hok : ∀ {l : List (Request α)} {n : Nat}, x ∉ l.zip (List.replicate n (.ok ())) := by
    intro l n hx
    rw [(List.mem_replicate.mp (List.of_mem_zip hx).2).2] at he
    cases he
  rcases h with ⟨hr, -⟩ | ⟨request, rest, e', hreq, hr, -, he'⟩
  · rw [hr] at hx
    exact absurd hx hok
  · rw [hreq, hr, List.zip_append (by simp)] at hx
    rcases List.mem_append.mp hx with hx | hx
    · exact absurd hx hok
    · rw [List.zip_cons_cons, List.zip_nil_right, List.mem_singleton] at hx
      subst hx
      obtain rfl := Except.error.inj he
      exact he'

end Machine

namespace Stepper

/-! ## The ends of a step -/

section Machine

variable (s : Stepper σ α) (clock : Clock α) (grids : List (Grid α)) (memory : σ)

/-- **The machine of a step**, after a schedule. -/
def machine (schedule : Schedule) : Machine σ α :=
  (Machine.start s.streams grids memory (s.requests clock grids memory)).run s.operators .stop
    schedule

/-- **A turn taken in a step**, under a schedule: by which worker, at what and with what memory. -/
def TurnIn (schedule : Schedule) (t : StreamIndex) (w : Worker α) (x : Turn σ α) : Prop :=
  (Machine.start s.streams grids memory (s.requests clock grids memory)).TurnIn s.operators .stop
    schedule t w x

/-- The machine of a step keeps to its requests, by turns of its schedule. -/
theorem follows_machine_turns (schedule : Schedule) :
    ∃ before current, (s.machine clock grids memory schedule).Follows s.operators
      (Worker.fresh s.streams grids) (s.home grids) (s.requests clock grids memory) before current
      (s.TurnIn clock grids memory schedule) :=
  Machine.exists_follows_run s.operators (s.orderly_requests clock grids memory)
    stream_mem_indices schedule

theorem follows_machine (schedule : Schedule) :
    ∃ before current, (s.machine clock grids memory schedule).Follows s.operators
      (Worker.fresh s.streams grids) (s.home grids) (s.requests clock grids memory) before
      current := by
  obtain ⟨before, current, h⟩ := s.follows_machine_turns clock grids memory schedule
  exact ⟨before, current, h.imp fun _ _ _ _ => trivial⟩

variable {s clock grids memory}

theorem stepUnder_of_poisoned (hp : s.poisoned = true) (schedule : Schedule) :
    s.stepUnder clock grids memory schedule
      = some { result := .error .poisoned, stepper := s, clock, grids, memory, events := [] } :=
  if_pos hp

theorem stepUnder_eq (hp : ¬ s.poisoned = true) (schedule : Schedule) :
    s.stepUnder clock grids memory schedule
      = if (s.machine clock grids memory schedule).isFinished = true then
          some (s.conclude clock grids memory (s.machine clock grids memory schedule).results
            (s.machine clock grids memory schedule).pool)
        else none :=
  if_neg hp

end Machine

/-- **A step can end so**: a schedule of its pool takes it there. -/
def Ends (s : Stepper σ α) (clock : Clock α) (grids : List (Grid α)) (memory : σ)
    (a : Advance σ α) : Prop :=
  ∃ schedule, s.stepUnder clock grids memory schedule = some a

variable {s : Stepper σ α} {clock : Clock α} {grids : List (Grid α)} {memory : σ} {a : Advance σ α}

theorem ends_step (s : Stepper σ α) (clock : Clock α) (grids : List (Grid α)) (memory : σ) :
    s.Ends clock grids memory (s.step clock grids memory) :=
  s.exists_stepUnder_eq_step clock grids memory

theorem Ends.of_poisoned (h : s.Ends clock grids memory a) (hp : s.poisoned = true) :
    a = { result := .error .poisoned, stepper := s, clock, grids, memory, events := [] } := by
  obtain ⟨schedule, h⟩ := h
  rw [stepUnder_of_poisoned hp] at h
  exact (Option.some.inj h).symm

/-- **A step ends with its machine.** -/
theorem Ends.exists_machine (h : s.Ends clock grids memory a) (hp : ¬ s.poisoned = true) :
    ∃ schedule, (s.machine clock grids memory schedule).isFinished = true
      ∧ a = s.conclude clock grids memory (s.machine clock grids memory schedule).results
        (s.machine clock grids memory schedule).pool := by
  obtain ⟨schedule, h⟩ := h
  rw [stepUnder_eq hp, Option.ite_none_right_eq_some] at h
  exact ⟨schedule, h.1, (Option.some.inj h.2).symm⟩

/-- **A step fails in the phase of the stage its error names.** -/
theorem phase_replay_begin {m : Machine σ α} {made : List (Request α)}
    (h : m.Answers (s.requests clock grids memory) made) {e : StepError} {p : Progress σ α}
    (he : (s.begin clock grids memory).replay
      (s.plan.stages.flatMap (s.stageCommands clock grids)) m.results = (.error e, p)) :
    ∃ n, e.stage? = some n ∧ p.phase = .awaitingStage n := by
  have hzip := fun x hx e => h.stage?_of_mem_zip (x := x) hx (e := e)
  have hwithin := s.within_flatMap_stageCommands clock grids s.plan.stages 0
  rw [requests, commands_begin] at hzip
  -- the first command enters the first stage
  obtain ⟨stage, call, rest, hrest⟩ : ∃ stage call rest,
      s.plan.stages.flatMap (s.stageCommands clock grids) = .enter stage call :: rest := by
    obtain ⟨stages, hstages⟩ := s.exists_stages_eq_cons
    exact ⟨_, _, _, by rw [hstages, List.flatMap_cons]; rfl⟩
  rw [hrest] at he hzip hwithin
  change (Progress.replay rest m.results ((s.begin clock grids memory).enter stage call)) = _ at he
  have hphase := Progress.phase_replay (show Command.Within stage.number rest from hwithin) hzip rfl
    (congrArg Prod.fst he)
  rwa [he] at hphase

/-- **The three kinds of end.** -/
theorem Ends.cases (h : s.Ends clock grids memory a) :
    (s.poisoned = true
        ∧ a = { result := .error .poisoned, stepper := s, clock, grids, memory, events := [] })
      ∨ (s.poisoned = false ∧ ∃ metrics,
        a.result = .ok ⟨clock.completeStep.iteration, clock.completeStep.time, metrics⟩
          ∧ a.clock = clock.completeStep
          ∧ a.stepper = { s with phase := .complete, lastMetrics := metrics })
      ∨ (s.poisoned = false ∧ ∃ e n, a.result = .error e ∧ e.stage? = some n ∧ a.clock = clock
          ∧ a.stepper = { s with phase := .awaitingStage n, poisoned := true }) := by
  by_cases hp : s.poisoned = true
  · exact .inl ⟨hp, h.of_poisoned hp⟩
  obtain ⟨schedule, -, rfl⟩ := h.exists_machine hp
  rw [Bool.not_eq_true] at hp
  obtain ⟨before, current, hm⟩ := s.follows_machine clock grids memory schedule
  generalize s.machine clock grids memory schedule = m at hm
  have hclock := Progress.clock_replay (s.plan.stages.flatMap (s.stageCommands clock grids))
    m.results (s.begin clock grids memory)
  rcases s.conclude_cases clock grids memory m.results m.pool with
    ⟨p, hr, hend⟩ | ⟨e, p, hr, hend⟩ <;> rw [hend] <;> rw [hr] at hclock
  · have hdone : p.clock.completeStep = clock.completeStep := by
      rw [Clock.completeStep, hclock.1, hclock.2]
      rfl
    refine .inr (.inl ⟨hp, p.metrics, ?_, hdone, rfl⟩)
    rw [← hdone]
    rfl
  · obtain ⟨n, hn, hphase⟩ := phase_replay_begin hm.answers hr
    have hback : p.clock.setWorkingTime clock.time = clock := by
      rw [Clock.setWorkingTime, hclock.1, hclock.2]
      rfl
    exact .inr (.inr ⟨hp, e, n, rfl, hn, hback, by rw [← hphase]; rfl⟩)

/-- A step that fails leaves the stepper poisoned. -/
theorem Ends.poisoned_of_error (h : s.Ends clock grids memory a) {e : StepError}
    (he : a.result = .error e) : a.stepper.poisoned = true := by
  rcases h.cases with ⟨hp, rfl⟩ | ⟨-, metrics, hok, -⟩ | ⟨-, _, n, -, -, -, hstepper⟩
  · exact hp
  · cases hok.symm.trans he
  · rw [hstepper]

/-- A new stepper waits for its first stage, is not poisoned, has done nothing, and calls the
collaborators of its configuration. -/
theorem of_make {c : Config σ α} {events : List (Event α)} (h : make c = .ok (s, events)) :
    s.phase = .awaitingStage 1 ∧ s.poisoned = false ∧ s.lastMetrics = {}
      ∧ s.operators = c.operators := by
  unfold make at h
  split at h
  · cases h
  · split at h
    · cases h
    · split at h
      · cases h
      · obtain ⟨rfl, -⟩ := Prod.mk.inj (Except.ok.inj h)
        exact ⟨rfl, rfl, rfl, rfl⟩

end Stepper

/-! ## Whole runs -/

/-- **What can become of a stepper and a clock**: the stepper is new, the clock has made `i₀` steps
of `dt`, then steps are taken, each over any grids and whatever is remembered, and the clock's time
is recomputed, in any order.  The results of the steps are kept. -/
inductive Course (c : Config σ α) (i₀ : Nat) (dt : α) :
    Stepper σ α → Clock α → List (Except StepError (Report α)) → Prop where
  | start {s events clock} (hs : Stepper.make c = .ok (s, events))
      (hc : Clock.resume i₀ dt = .ok clock) : Course c i₀ dt s clock []
  | step {s clock results} (h : Course c i₀ dt s clock results) {grids memory a}
      (ha : s.Ends clock grids memory a) :
      Course c i₀ dt a.stepper a.clock (results ++ [a.result])
  | recompute {s clock results} (h : Course c i₀ dt s clock results) :
      Course c i₀ dt s clock.recomputeTime results

/-- **Where a stepper and its clock stand** after steps with these results, of which `reports` are
those of the steps that succeeded. -/
structure Standing (i₀ : Nat) (dt : α) (s : Stepper σ α) (clock : Clock α)
    (results : List (Except StepError (Report α))) (reports : List (Report α)) : Prop where
  time : clock.time = Clock.timeAt clock.iteration dt
  step : clock.dt = dt
  count : clock.iteration = i₀ + reports.length
  reported : ∀ {i report}, reports[i]? = some report →
    report.iteration = i₀ + i + 1 ∧ report.time = Clock.timeAt (i₀ + i + 1) dt
  metrics : s.lastMetrics = (reports.getLast?.map Report.metrics).getD {}
  /-- Nothing has failed; or a step has, and every later one was refused. -/
  outcome :
    (results = reports.map .ok ∧ s.poisoned = false
        ∧ s.phase = if reports.isEmpty then .awaitingStage 1 else .complete)
      ∨ ∃ e n k, results = reports.map .ok ++ .error e :: List.replicate k (.error .poisoned)
          ∧ e.stage? = some n ∧ s.poisoned = true ∧ s.phase = .awaitingStage n

namespace Standing

variable {i₀ : Nat} {dt : α} {s : Stepper σ α} {clock : Clock α}
  {results : List (Except StepError (Report α))} {reports : List (Report α)}

theorem start {c : Config σ α} {events : List (Event α)} (hs : Stepper.make c = .ok (s, events))
    (hc : Clock.resume i₀ dt = .ok clock) : Standing i₀ dt s clock [] [] := by
  unfold Clock.resume at hc
  split at hc
  · obtain rfl := Except.ok.inj hc
    obtain ⟨hphase, hpoisoned, hmetrics, -⟩ := Stepper.of_make hs
    exact ⟨rfl, rfl, rfl, (fun h => by cases h), hmetrics, .inl ⟨rfl, hpoisoned, hphase⟩⟩
  · cases hc

theorem recompute (h : Standing i₀ dt s clock results reports) :
    Standing i₀ dt s clock.recomputeTime results reports :=
  { h with time := by rw [Clock.recomputeTime, h.step] }

/-- A poisoned stepper stands where it stood. -/
theorem refused (h : Standing i₀ dt s clock results reports) (hp : s.poisoned = true) :
    Standing i₀ dt s clock (results ++ [.error .poisoned]) reports := by
  refine { h with outcome := .inr ?_ }
  rcases h.outcome with ⟨-, hp', -⟩ | ⟨e, n, k, hr, hn, -, hphase⟩
  · rw [hp] at hp'
    cases hp'
  · refine ⟨e, n, k + 1, ?_, hn, hp, hphase⟩
    rw [hr, List.append_assoc, List.cons_append, ← List.replicate_succ']

theorem results_of_poisoned (h : Standing i₀ dt s clock results reports) (hp : s.poisoned = false) :
    results = reports.map .ok := by
  rcases h.outcome with ⟨hr, -, -⟩ | ⟨e, n, k, -, -, hp', -⟩
  · exact hr
  · rw [hp] at hp'
    cases hp'

/-- A step that succeeds is counted, and its report has the time and the count of the clock. -/
theorem succeeded (h : Standing i₀ dt s clock results reports) (hp : s.poisoned = false)
    (metrics : Metrics) :
    let report : Report α := ⟨clock.completeStep.iteration, clock.completeStep.time, metrics⟩
    Standing i₀ dt { s with phase := .complete, lastMetrics := metrics } clock.completeStep
      (results ++ [.ok report]) (reports ++ [report]) := by
  intro report
  have hcount : report.iteration = i₀ + reports.length + 1 := congrArg (· + 1) h.count
  have htime : report.time = Clock.timeAt report.iteration dt := congrArg (Clock.timeAt _) h.step
  refine ⟨htime, h.step, ?_, ?_, by simp [report], .inl ⟨?_, hp, by simp⟩⟩
  · rw [List.length_append]
    exact hcount
  · intro i report' hget
    rcases Nat.lt_or_ge i reports.length with hlt | hge
    · rw [List.getElem?_append_left hlt] at hget
      exact h.reported hget
    · rw [List.getElem?_append_right hge, List.getElem?_singleton,
        Option.ite_none_right_eq_some] at hget
      obtain ⟨hi, hreport⟩ := hget
      obtain rfl := Option.some.inj hreport
      obtain rfl : i = reports.length := by omega
      exact ⟨hcount, by rw [htime, hcount]⟩
  · rw [h.results_of_poisoned hp, List.map_append]
    rfl

/-- A step that fails leaves the stepper in the phase of the stage its error names. -/
theorem failed (h : Standing i₀ dt s clock results reports) (hp : s.poisoned = false)
    {e : StepError} {n : Nat} (hn : e.stage? = some n) :
    Standing i₀ dt { s with phase := .awaitingStage n, poisoned := true } clock
      (results ++ [.error e]) reports :=
  ⟨h.time, h.step, h.count, h.reported, h.metrics,
    .inr ⟨e, n, 0, by rw [h.results_of_poisoned hp]; rfl, hn, rfl, rfl⟩⟩

end Standing

/-- **At every point of a course the clock and the stepper stand where the results so far put
them.** -/
theorem Course.exists_standing {c : Config σ α} {i₀ : Nat} {dt : α} {s : Stepper σ α}
    {clock : Clock α} {results : List (Except StepError (Report α))}
    (h : Course c i₀ dt s clock results) :
    ∃ reports, Standing i₀ dt s clock results reports := by
  induction h with
  | start hs hc => exact ⟨[], .start hs hc⟩
  | recompute _ ih =>
    obtain ⟨reports, h⟩ := ih
    exact ⟨reports, h.recompute⟩
  | step _ ha ih =>
    obtain ⟨reports, h⟩ := ih
    rcases ha.cases with ⟨hp, rfl⟩ | ⟨hp, metrics, hr, hc, hs⟩ | ⟨hp, e, n, hr, hn, hc, hs⟩
    · exact ⟨reports, h.refused hp⟩
    · rw [hr, hc, hs]
      exact ⟨_, h.succeeded hp metrics⟩
    · rw [hr, hc, hs]
      exact ⟨reports, h.failed hp hn⟩

namespace Course

/-- **Clock, poison and phase over whole runs.**  At every point of a course the clock's time is its
count times its step, the count is that of the steps that succeeded, and each of these reported its
own time and count; the stepper is poisoned once a step has failed, and its phase is the one it
started in, the one of a finished step, or the stage that failed.  From there, a step that succeeds
reports the time and the count it leaves; the first that fails leaves the clock and the last metrics
as they were, in the phase of the stage its error names; and every later one is refused and changes
nothing, whatever the collaborators could have remembered of it. -/
theorem keeps_clock_and_phase {c : Config σ α} {i₀ : Nat} {dt : α} {s : Stepper σ α}
    {clock : Clock α} {results : List (Except StepError (Report α))}
    (h : Course c i₀ dt s clock results) :
    (∃ reports, Standing i₀ dt s clock results reports)
      ∧ ∀ {grids memory a}, s.Ends clock grids memory a →
        (s.poisoned = true →
          a = { result := .error .poisoned, stepper := s, clock, grids, memory, events := [] })
        ∧ (s.poisoned = false → ∀ {e}, a.result = .error e →
          a.clock = clock ∧ a.stepper.poisoned = true ∧ a.stepper.lastMetrics = s.lastMetrics
            ∧ ∃ n, e.stage? = some n ∧ a.stepper.phase = .awaitingStage n)
        ∧ ∀ {report}, a.result = .ok report →
          s.poisoned = false ∧ a.clock.iteration = clock.iteration + 1
            ∧ report.iteration = a.clock.iteration ∧ report.time = a.clock.time
            ∧ a.stepper.poisoned = false ∧ a.stepper.phase = .complete
            ∧ a.stepper.lastMetrics = report.metrics := by
  refine ⟨h.exists_standing, fun {grids memory a} ha => ?_⟩
  rcases ha.cases with ⟨hp, rfl⟩ | ⟨hp, metrics, hr, hc, hs⟩ | ⟨hp, e, n, hr, hn, hc, hs⟩
  · refine ⟨fun _ => rfl, fun hp' => ?_, fun hr => by cases hr⟩
    exact absurd (hp'.symm.trans hp) Bool.false_ne_true
  · refine ⟨fun hp' => absurd (hp.symm.trans hp') Bool.false_ne_true, fun _ e he => ?_,
      fun {report} hok => ?_⟩
    · rw [hr] at he
      cases he
    · rw [hr] at hok
      obtain rfl := Except.ok.inj hok
      rw [hc, hs]
      exact ⟨hp, rfl, rfl, rfl, hp, rfl, rfl⟩
  · refine ⟨fun hp' => absurd (hp.symm.trans hp') Bool.false_ne_true, fun _ e' he => ?_,
      fun {report} hok => ?_⟩
    · rw [hr] at he
      obtain rfl := Except.error.inj he
      rw [hs]
      exact ⟨hc, rfl, rfl, n, hn, rfl⟩
    · rw [hr] at hok
      cases hok

/-- From five steps of a half: a step over grid 0, the time recomputed, a step over grids 0 and 3
that fails in the second stage of grid 3, and a step that is refused. -/
theorem keeps_clock_and_phase_heunThird :
    let rule : FaultRule Rat := ⟨some 3, some 2, none, .fail (.executionFailed "out of range")⟩
    let c : Config Unit Rat :=
      { scheme := .heunThird, streamPoolSize := 2, blockSize := 1, checkFinite := true
        rhs := .faulty [rule] (.affine 1 2 3) }
    let s : Stepper Unit Rat := .heunThird c.rhs c.boundary
    let grids := [Grid.pair 0 .radiation 1 2, Grid.pair 3 .extrapolation 3 4]
    let a := s.step ⟨5 / 2, 1 / 2, 5⟩ (grids.take 1) ()
    let b := a.stepper.step a.clock.recomputeTime grids ()
    let d := b.stepper.step b.clock (grids.take 1) ()
    ((a.result.map fun _ => ()) = .ok ()
        ∧ (b.result.map fun _ => ()) = .error (.rhsFailed 3 2 (.executionFailed "out of range"))
        ∧ (d.result.map fun _ => ()) = .error .poisoned)
      ∧ Course c 5 (1 / 2) d.stepper d.clock [a.result, b.result, d.result]
      ∧ (∃ reports, Standing 5 (1 / 2) d.stepper d.clock [a.result, b.result, d.result] reports)
      ∧ d.stepper.step d.clock grids ()
        = ⟨.error .poisoned, d.stepper, d.clock, grids, (), []⟩ := by
  intro rule c s grids a b d
  have hs : Stepper.make c = .ok (s, Stepper.building c s.plan none) := rfl
  have hc : Clock.resume 5 (1 / 2 : Rat) = .ok ⟨5 / 2, 1 / 2, 5⟩ := by cbv
  have hcourse : Course c 5 (1 / 2) d.stepper d.clock [a.result, b.result, d.result] :=
    (((Course.start hs hc).step (s.ends_step _ _ _)).recompute.step
      (a.stepper.ends_step _ _ _)).step (b.stepper.ends_step _ _ _)
  have hresults : (a.result.map fun _ => ()) = .ok ()
      ∧ (b.result.map fun _ => ()) = .error (.rhsFailed 3 2 (.executionFailed "out of range"))
      ∧ (d.result.map fun _ => ()) = .error .poisoned := by decide +kernel
  have hp : d.stepper.poisoned = true := by decide +kernel
  obtain ⟨hstanding, hnext⟩ := keeps_clock_and_phase hcourse
  exact ⟨hresults, hcourse, hstanding, (hnext (d.stepper.ends_step _ _ _)).1 hp⟩

end Course

end MethodOfLines
