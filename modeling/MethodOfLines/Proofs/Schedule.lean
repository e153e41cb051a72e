import MethodOfLines.Proofs.Interleaving
import MethodOfLines.Proofs.Step

/-!
# Proofs/Schedule — who moves when does not matter

A pool with queues, whatever the order in which the issuing side and the workers move, gives every
fence the answer it has when operations are carried out as they are issued, and leaves the same
grids.  Where no stream is lost all answers are the same, and with them everything a step reports
(`Stepper.stepUnder`).

`Machine.run_goOn` and `Machine.run_of_kept` follow the outcome of `Proofs/Interleaving` along a
schedule, move by move.
-/

namespace MethodOfLines

variable {σ α : Type}

/-! ## The answers of the fences -/

namespace Request

/-- **The answers to the fences** among requests that have been answered in order. -/
def fenceAnswers : List (Request α) → List (Except StepError Unit) → List (Except StepError Unit)
  | .fence _ :: requests, answer :: answers => answer :: fenceAnswers requests answers
  | .submit .. :: requests, _ :: answers => fenceAnswers requests answers
  | [], _ | _ :: _, [] => []

/-- What has been answered is the beginning of what will have been. -/
theorem fenceAnswers_append_prefix (requests : List (Request α)) :
    ∀ given coming, fenceAnswers requests given <+: fenceAnswers requests (given ++ coming) := by
  induction requests with
  | nil => intro given coming; simp [fenceAnswers]
  | cons request requests ih =>
    intro given coming
    cases given with
    | nil => cases request <;> exact List.nil_prefix
    | cons answer given =>
      cases request with
      | fence stage => exact List.cons_prefix_cons.mpr ⟨rfl, ih given coming⟩
      | submit b call op => exact ih given coming

end Request

/-! ## Along a schedule -/

namespace Machine

/-- A new machine is in good order. -/
theorem sound_start (size : Nat) (grids : List (Grid α)) (memory : σ)
    (requests : List (Request α)) : (start size grids memory requests).Sound := by
  have hlane : ∀ lane ∈ (start size grids memory requests).lanes,
      lane.queue = [] ∧ lane.stream.worker.lost = false := by
    intro lane hmem
    obtain ⟨st, hst, rfl⟩ := List.mem_map.mp hmem
    obtain ⟨s, -, rfl⟩ := List.mem_map.mp hst
    exact ⟨rfl, rfl⟩
  refine ⟨?_, fun lane hmem => ?_, fun _ lane hmem message hmessage => ?_, fun hw => absurd rfl hw,
    fun hw => absurd rfl hw⟩
  · rw [start, List.map_map]
    exact Pool.nodup_of_sorted (Pool.indices_spawn_sorted size grids memory)
  · obtain ⟨-, hl⟩ := hlane lane hmem
    refine ⟨fun hl' => ?_, fun hl' => ?_⟩
    · simp [hl] at hl'
    · simp [hl] at hl'
  · rw [(hlane lane hmem).1] at hmessage
    exact absurd hmessage List.not_mem_nil

variable [Scalar α] {ops : Operators σ α} {d : Discipline} {m : Machine σ α}

/-- A new machine is on its way to what its requests come to, each carried out when it is made. -/
theorem expected_start (ops : Operators σ α) (d : Discipline) (size : Nat) (grids : List (Grid α))
    (memory : σ) (requests : List (Request α)) :
    (start size grids memory requests).expected ops memory d
      = Pool.serveAll ops d requests (Pool.spawn size grids memory) := by
  have hsettled : (start size grids memory requests).settled ops memory
      = Pool.spawn size grids memory := by
    refine congrArg (Pool.mk _ _ · memory) ?_
    rw [start, List.map_map]
    exact List.map_id _
  rw [expected_of_free ops memory d rfl, hsettled]
  rfl

theorem run_cons (ops : Operators σ α) (d : Discipline) (m : Machine σ α) (actor : Actor)
    (schedule : Schedule) :
    m.run ops d (actor :: schedule) = ((m.move? ops d actor).getD m).run ops d schedule := rfl

theorem run_append (ops : Operators σ α) (d : Discipline) (m : Machine σ α)
    (schedule schedule' : Schedule) :
    m.run ops d (schedule ++ schedule') = (m.run ops d schedule).run ops d schedule' :=
  List.foldl_append

theorem run_concat (ops : Operators σ α) (d : Discipline) (m : Machine σ α) (schedule : Schedule)
    (actor : Actor) :
    m.run ops d (schedule ++ [actor])
      = ((m.run ops d schedule).move? ops d actor).getD (m.run ops d schedule) :=
  run_append ops d m schedule [actor]

/-- **What every move keeps holds along every schedule.** -/
theorem run_invariant {I : Machine σ α → Prop}
    (hstep : ∀ {m m' actor}, I m → m.move? ops d actor = some m' → I m') (h : I m)
    (schedule : Schedule) : I (m.run ops d schedule) := by
  induction schedule generalizing m with
  | nil => exact h
  | cons actor schedule ih =>
    rw [run_cons]
    cases hmove : m.move? ops d actor with
    | none => exact ih h
    | some m' => exact ih (hstep h hmove)

theorem sound_run (ops : Operators σ α) (d : Discipline) (hm : m.Sound) (schedule : Schedule) :
    (m.run ops d schedule).Sound :=
  run_invariant (fun hm hmove => sound_of_move? hm hmove) hm schedule

/-- **If the issuing side does not stop at errors, the fences are answered as expected, and the pool
is on its way to the one expected.** -/
theorem run_goOn (hf : ops.Functional) (memory : σ) (hm : m.Sound) (schedule : Schedule) :
    ∃ given, (m.run ops .goOn schedule).results = m.results ++ given
      ∧ Request.fenceAnswers m.outstanding
          (given ++ ((m.run ops .goOn schedule).expected ops memory .goOn).1)
        = Request.fenceAnswers m.outstanding (m.expected ops memory .goOn).1
      ∧ (m.expected ops memory .goOn).2.Alike
          ((m.run ops .goOn schedule).expected ops memory .goOn).2 := by
  induction schedule generalizing m with
  | nil => exact ⟨[], (List.append_nil _).symm, rfl, .refl _⟩
  | cons actor schedule ih =>
    rw [run_cons]
    cases hmove : m.move? ops .goOn actor with
    | none => exact ih hm
    | some m' =>
      obtain ⟨given, hresults, hanswers, hpool⟩ := ih (sound_of_move? hm hmove)
      rw [Option.getD_some]
      rcases move?_cases hf memory hm hmove with ⟨hres, hout, hexp⟩ |
        ⟨request, rest, answer, given', hout, hout', hres, hfence, hexp⟩
      · rw [hres] at hresults
        rw [hout, hexp] at hanswers
        rw [hexp] at hpool
        exact ⟨given, hresults, hanswers, hpool⟩
      · obtain ⟨hans, halike⟩ := hexp (.inl rfl)
        refine ⟨given' :: given, ?_, ?_, halike.trans hpool⟩
        · rw [hresults, hres, List.append_assoc]
          rfl
        · rw [hout, hans, List.cons_append]
          rw [hout'] at hanswers
          cases request with
          | fence stage =>
            rw [hfence (.inl ⟨stage, rfl⟩)]
            exact congrArg (answer :: ·) hanswers
          | submit b call op => exact hanswers

/-- **If no stream is going to be lost, every answer is as expected.** -/
theorem run_of_kept (hf : ops.Functional) (memory : σ) (hm : m.Sound)
    (hkept : ∀ s, (m.expected ops memory d).2.statusOf s ≠ .crashed) (schedule : Schedule) :
    (m.run ops d schedule).results ++ ((m.run ops d schedule).expected ops memory d).1
        = m.results ++ (m.expected ops memory d).1
      ∧ (m.expected ops memory d).2.Alike ((m.run ops d schedule).expected ops memory d).2 := by
  induction schedule generalizing m with
  | nil => exact ⟨rfl, .refl _⟩
  | cons actor schedule ih =>
    rw [run_cons]
    cases hmove : m.move? ops d actor with
    | none => exact ih hm hkept
    | some m' =>
      have hm' := sound_of_move? hm hmove
      rw [Option.getD_some]
      rcases move?_cases hf memory hm hmove with ⟨hres, -, hexp⟩ |
        ⟨request, rest, answer, given, -, -, hres, hgiven, hexp⟩
      · have hrest := ih hm' (hexp ▸ hkept)
        rwa [hres, hexp] at hrest
      · obtain rfl := hgiven (.inr hkept)
        obtain ⟨hans, halike⟩ := hexp (.inr rfl)
        obtain ⟨hresults, hpool⟩ := ih hm' fun s hs => hkept s ((halike.statusOf s).trans hs)
        refine ⟨?_, halike.trans hpool⟩
        rw [hresults, hres, hans, List.append_assoc]
        rfl

/-- **At its end a machine has given every answer, and its pool is the one expected.** -/
theorem expected_of_isFinished (ops : Operators σ α) (memory : σ) (d : Discipline)
    (h : m.isFinished = true) :
    (m.expected ops memory d).1 = [] ∧ (m.expected ops memory d).2.Alike m.pool := by
  simp only [isFinished, Bool.and_eq_true, List.isEmpty_iff, Option.isNone_iff_eq_none,
    List.all_eq_true, Lane.isIdle] at h
  obtain ⟨⟨hp, hw⟩, hidle⟩ := h
  rw [expected_of_free ops memory d hw, hp]
  refine ⟨rfl, rfl, List.map_congr_left fun lane hmem => ?_⟩
  rw [Lane.settled, hidle lane hmem]
  rfl

end Machine

/-! ## A step on a machine -/

namespace Progress

variable [Scalar α]

/-- **Commands with the answers of the pool to what they ask**, up to the first that fails.  The
pool itself is not looked at. -/
def replay : List (Command α) → List (Except StepError Unit) → Progress σ α →
    Except StepError Unit × Progress σ α
  | [], _, p | .ask _ :: _, [], p => (.ok (), p)
  | .enter stage call :: rest, answers, p => replay rest answers (p.enter stage call)
  | .report event :: rest, answers, p => replay rest answers (p.report event)
  | .refuse error :: _, _, p => (.error (.dispatch error), p)
  | .ask _ :: _, .error e :: _, p => (.error e, p)
  | .ask request :: rest, .ok () :: answers, p =>
    replay rest answers { p with metrics := p.metrics.count request }

/-- **Commands carried out are the requests carried out, and the commands with their answers.** -/
theorem run_eq_replay (ops : Operators σ α) (commands : List (Command α)) :
    ∀ {pool left : Pool σ α} {answers : List (Except StepError Unit)} (p : Progress σ α),
      Pool.serveAll ops .stop (Command.requests commands) pool = (answers, left) →
      run ops commands { p with pool }
        = ((replay commands answers p).1, { (replay commands answers p).2 with pool := left }) := by
  induction commands with
  | nil =>
    intro pool left answers p h
    obtain ⟨-, rfl⟩ := Prod.mk.inj h
    rfl
  | cons command rest ih =>
    intro pool left answers p h
    cases command with
    | enter stage call => exact ih (p.enter stage call) h
    | report event => exact ih (p.report event) h
    | refuse error =>
      obtain ⟨-, rfl⟩ := Prod.mk.inj h
      rfl
    | ask request =>
      rw [Command.requests, Pool.serveAll] at h
      rw [run, issue]
      rcases hs : pool.serve ops request with ⟨e | _, pool'⟩
      · rw [hs] at h
        obtain ⟨rfl, rfl⟩ := Prod.mk.inj h
        rfl
      · rw [hs] at h
        obtain ⟨rfl, hleft⟩ := Prod.mk.inj h
        exact ih { p with metrics := p.metrics.count request } (Prod.ext rfl hleft)

end Progress

/-- **Ends of a step that differ at most in what is remembered.** -/
structure Advance.Agrees [Scalar α] (a b : Advance σ α) : Prop where
  result : a.result = b.result
  stepper : a.stepper = b.stepper
  clock : a.clock = b.clock
  grids : a.grids = b.grids
  events : a.events = b.events

namespace Stepper

variable [Scalar α] (s : Stepper σ α) (clock : Clock α) (grids : List (Grid α)) (memory : σ)

/-- The requests of a step. -/
def requests : List (Request α) :=
  Command.requests (s.commands clock (s.begin clock grids memory).pool.bindings)

/-- **The end of a step**, from the answers to its requests and the pool that is left. -/
def conclude (answers : List (Except StepError Unit)) (pool : Pool σ α) : Advance σ α :=
  let p := s.begin clock grids memory
  match p.replay (s.commands clock p.pool.bindings) answers with
  | (.ok (), p) => s.succeed { p with pool }
  | (.error e, p) => s.fail clock.time e { p with pool }

/-- **A step succeeds or fails** as its commands do with their answers. -/
theorem conclude_cases (answers : List (Except StepError Unit)) (pool : Pool σ α) :
    (∃ p, (s.begin clock grids memory).replay
          (s.plan.stages.flatMap (s.stageCommands clock grids)) answers = (.ok (), p)
        ∧ s.conclude clock grids memory answers pool = s.succeed { p with pool })
      ∨ ∃ e p, (s.begin clock grids memory).replay
          (s.plan.stages.flatMap (s.stageCommands clock grids)) answers = (.error e, p)
        ∧ s.conclude clock grids memory answers pool = s.fail clock.time e { p with pool } := by
  rw [conclude, commands_begin]
  rcases (s.begin clock grids memory).replay
    (s.plan.stages.flatMap (s.stageCommands clock grids)) answers with ⟨e | _, p⟩
  · exact .inr ⟨e, p, rfl, rfl⟩
  · exact .inl ⟨p, rfl, rfl⟩

/-- **A step whose requests are made of a machine**, if the machine comes to its end under a
schedule. -/
def stepUnder (schedule : Schedule) : Option (Advance σ α) :=
  let m := (Machine.start s.streams grids memory (s.requests clock grids memory)).run s.operators
    .stop schedule
  if s.poisoned then
    some { result := .error .poisoned, stepper := s, clock, grids, memory, events := [] }
  else if m.isFinished then some (s.conclude clock grids memory m.results m.pool)
  else none

variable {s clock grids memory} {answers : List (Except StepError Unit)} {pool pool' : Pool σ α}

/-- The grids at the end of a step are those of its pool. -/
theorem grids_conclude (answers : List (Except StepError Unit)) (pool : Pool σ α) :
    (s.conclude clock grids memory answers pool).grids = pool.grids := by
  rcases s.conclude_cases clock grids memory answers pool with ⟨p, -, hend⟩ | ⟨e, p, -, hend⟩ <;>
    rw [hend] <;> rfl

theorem agrees_conclude (h : pool.Alike pool') :
    (s.conclude clock grids memory answers pool).Agrees
      (s.conclude clock grids memory answers pool') := by
  rw [conclude, conclude]
  match (s.begin clock grids memory).replay
      (s.commands clock (s.begin clock grids memory).pool.bindings) answers with
  | (.ok (), p) => exact ⟨rfl, rfl, rfl, h.grids, by simp only [succeed, h.closing]⟩
  | (.error e, p) => exact ⟨rfl, rfl, rfl, h.grids, by simp only [fail, h.closing]⟩

/-- A step that is not refused ends as the answers to its requests say. -/
theorem step_eq_conclude (hp : s.poisoned = false)
    (h : Pool.serveAll s.operators .stop (s.requests clock grids memory)
      (Pool.spawn s.streams grids memory) = (answers, pool)) :
    s.step clock grids memory = s.conclude clock grids memory answers pool := by
  have hrun := Progress.run_eq_replay _ _ (s.begin clock grids memory) h
  rw [conclude]
  match hr : (s.begin clock grids memory).replay
      (s.commands clock (s.begin clock grids memory).pool.bindings) answers with
  | (.ok (), q) =>
    rw [hr] at hrun
    exact step_of_run_ok hp hrun
  | (.error e, q) =>
    rw [hr] at hrun
    exact step_of_run_error hp hrun

/-- **The requests of a step lose no stream**, if no collaborator crashes on its grids. -/
theorem statusOf_serveAll_requests (hc : ∀ g ∈ grids, s.operators.NeverCrashOn g)
    (i : StreamIndex) :
    (Pool.serveAll s.operators .stop (s.requests clock grids memory)
      (Pool.spawn s.streams grids memory)).2.statusOf i ≠ .crashed := by
  have hkept : (Progress.run s.operators
      (s.commands clock (s.begin clock grids memory).pool.bindings)
      (s.begin clock grids memory)).2.pool.statusOf i ≠ .crashed :=
    statusOf_run_stages hc s.plan.stages (s.ready_begin clock grids memory)
      (fun _ _ => .refl _) i
  have hrun := Progress.run_eq_replay s.operators _ (s.begin clock grids memory)
    (Prod.eta (Pool.serveAll s.operators .stop (s.requests clock grids memory)
      (Pool.spawn s.streams grids memory))).symm
  exact fun h => hkept ((congrArg (·.2.pool.statusOf i) hrun).trans h)

/-- Every schedule of a step can be continued to the step's end. -/
theorem exists_stepUnder_append (s : Stepper σ α) (clock : Clock α) (grids : List (Grid α))
    (memory : σ) (schedule : Schedule) :
    ∃ more, (s.stepUnder clock grids memory (schedule ++ more)).isSome = true := by
  cases hp : s.poisoned with
  | true => exact ⟨[], by simp [stepUnder, hp]⟩
  | false =>
    have hsound := Machine.sound_start s.streams grids memory (s.requests clock grids memory)
    obtain ⟨more, hmore⟩ := Machine.exists_isFinished s.operators .stop
      (Machine.sound_run s.operators .stop hsound schedule)
    rw [← Machine.run_append] at hmore
    exact ⟨more, by simp [stepUnder, hp, hmore]⟩

/-- **A step ends as it does when every operation is carried out as it is issued**, whatever the
schedule, if no stream is lost there. -/
theorem agrees_of_kept (hf : s.operators.Functional)
    (hkept : ∀ i, (Pool.serveAll s.operators .stop (s.requests clock grids memory)
      (Pool.spawn s.streams grids memory)).2.statusOf i ≠ .crashed)
    {schedule : Schedule} {a : Advance σ α}
    (h : s.stepUnder clock grids memory schedule = some a) :
    a.Agrees (s.step clock grids memory) := by
  cases hp : s.poisoned with
  | true =>
    simp only [stepUnder, hp, if_true, Option.some.injEq] at h
    subst h
    simp only [step, hp, if_true]
    exact ⟨rfl, rfl, rfl, rfl, rfl⟩
  | false =>
    simp only [stepUnder, hp, Bool.false_eq_true, if_false, Option.ite_none_right_eq_some,
      Option.some.injEq] at h
    obtain ⟨hfinished, rfl⟩ := h
    have hsound := Machine.sound_start s.streams grids memory (s.requests clock grids memory)
    have hstart := Machine.expected_start s.operators .stop s.streams grids memory
      (s.requests clock grids memory)
    obtain ⟨hanswers, hpool⟩ := Machine.run_of_kept hf memory hsound (hstart ▸ hkept) schedule
    obtain ⟨hend, hleft⟩ := Machine.expected_of_isFinished s.operators memory .stop hfinished
    rw [hend, List.append_nil, hstart] at hanswers
    rw [hstart] at hpool
    rw [step_eq_conclude hp (Prod.eta _).symm, hanswers]
    exact agrees_conclude (hpool.trans hleft).symm

/-- Under every schedule a step ends in the same way, if no collaborator crashes on its grids. -/
theorem agrees_of_stepUnder (hf : s.operators.Functional)
    (hc : ∀ g ∈ grids, s.operators.NeverCrashOn g) {schedule : Schedule}
    {a : Advance σ α} (h : s.stepUnder clock grids memory schedule = some a) :
    a.Agrees (s.step clock grids memory) :=
  agrees_of_kept hf (statusOf_serveAll_requests hc) h

end Stepper

/-! ## Schedules -/

namespace Machine

variable [Scalar α] {ops : Operators σ α}

/-- **The order of moves does not matter.**  Under every schedule the fences are answered, one after
the other, as when each operation is carried out at the moment it is issued; every schedule can be
continued to the end, and there the streams and the grids are those of that serial run.  A step,
which stops at the first error, ends in the same way under every schedule. -/
theorem run_agrees_with_serial (hf : ops.Functional) :
    (∀ (size : Nat) (grids : List (Grid α)) (memory : σ) (requests : List (Request α))
        (schedule : Schedule),
      let serial := Pool.serveAll ops .goOn requests (Pool.spawn size grids memory)
      let m := (start size grids memory requests).run ops .goOn schedule
      Request.fenceAnswers requests m.results <+: Request.fenceAnswers requests serial.1
        ∧ (∃ more, (m.run ops .goOn more).isFinished = true)
        ∧ (m.isFinished = true →
            Request.fenceAnswers requests m.results = Request.fenceAnswers requests serial.1
              ∧ m.pool.streams = serial.2.streams ∧ m.pool.grids = serial.2.grids))
    ∧ ∀ s : Stepper σ α, s.operators = ops →
        ∀ (clock : Clock α) (grids : List (Grid α)), (∀ g ∈ grids, ops.NeverCrashOn g) →
        ∀ (memory : σ) (schedule : Schedule),
          (∃ more, (s.stepUnder clock grids memory (schedule ++ more)).isSome = true)
            ∧ ∀ a, s.stepUnder clock grids memory schedule = some a →
                a.Agrees (s.step clock grids memory) := by
  refine ⟨fun size grids memory requests schedule => ?_, ?_⟩
  · intro serial m
    have hsound := sound_start size grids memory requests
    obtain ⟨given, hresults, hanswers, hpool⟩ := run_goOn hf memory hsound schedule
    rw [expected_start] at hanswers hpool
    rw [show (start size grids memory requests).results = [] from rfl, List.nil_append] at hresults
    rw [show (start size grids memory requests).outstanding = requests from rfl] at hanswers
    refine ⟨?_, exists_isFinished ops .goOn (sound_run ops .goOn hsound schedule), fun hend => ?_⟩
    · rw [hresults, ← hanswers]
      exact Request.fenceAnswers_append_prefix requests given _
    · obtain ⟨hnone, hleft⟩ := expected_of_isFinished ops memory .goOn hend
      rw [hnone, List.append_nil] at hanswers
      have halike := (hpool.trans hleft).symm
      exact ⟨by rw [hresults, hanswers], halike.streams, halike.grids⟩
  · rintro s rfl clock grids hc memory schedule
    exact ⟨s.exists_stepUnder_append clock grids memory schedule,
      fun a h => Stepper.agrees_of_stepUnder hf hc h⟩

/-- The right-hand side of grid 3 fails in the second stage.  In every stage the issuing side runs
ahead as far as it can, then stream 1 catches up, then stream 0. -/
theorem run_agrees_with_serial_heunThird :
    let rule : FaultRule Rat := ⟨some 3, some 2, none, .fail (.executionFailed "out of range")⟩
    let s : Stepper Unit Rat := .heunThird (.faulty [rule] (.affine 1 2 3)) .none
    let clock : Clock Rat := ⟨0, 1, 0⟩
    let grids := [Grid.pair 0 .radiation 1 2, Grid.pair 3 .extrapolation 3 4]
    let requests := s.requests clock grids ()
    let schedule := (List.replicate 3 (List.replicate 11 Actor.issuer
      ++ List.replicate 5 (.worker 1) ++ List.replicate 5 (.worker 0) ++ [.issuer])).flatten
    let serial := Pool.serveAll s.operators .goOn requests (Pool.spawn 2 grids ())
    let m := (start 2 grids () requests).run s.operators .goOn schedule
    (m.isFinished = true
        ∧ Request.fenceAnswers requests m.results = Request.fenceAnswers requests serial.1
        ∧ m.pool.grids = serial.2.grids)
      ∧ ∃ a, s.stepUnder clock grids () schedule = some a ∧ a.stepper.poisoned = true
        ∧ a.Agrees (s.step clock grids ()) := by
  intro rule s clock grids requests schedule serial m
  have hc : ∀ g ∈ grids, s.operators.NeverCrashOn g :=
    fun g _ => Stepper.neverCrash_heunThird (by simp [rule]) 1 2 3 g
  obtain ⟨hpool, hstep⟩ := run_agrees_with_serial s.operators.functional
  have hend : m.isFinished = true := by decide +kernel
  obtain ⟨-, -, hfinished⟩ := hpool 2 grids () requests schedule
  obtain ⟨hanswers, -, hgrids⟩ := hfinished hend
  have hsome : (s.stepUnder clock grids () schedule).map (·.stepper.poisoned) = some true := by cbv
  obtain ⟨a, ha, hpoisoned⟩ := Option.map_eq_some_iff.mp hsome
  exact ⟨⟨hend, hanswers, hgrids⟩, a, ha, hpoisoned,
    (hstep s rfl clock grids hc () schedule).2 a ha⟩

end Machine

end MethodOfLines
