import MethodOfLines.Operator.Edges
import MethodOfLines.Proofs.Stage
import MethodOfLines.Scalar.Rational
import MethodOfLines.Stepper.Basic

/-!
# Proofs/Step — a step is its stages, one after the other

A step that is not refused as poisoned runs the commands of its stages from a new pool, which is
ready for the first of them (`Stepper.ready_begin`); how the commands end decides how the step ends
(`Stepper.step_of_run_ok`, `Stepper.step_of_run_error`).  No stream is lost if no collaborator
crashes (`Stepper.statusOf_run_stages`), and the commands succeed if every row is done
(`Stepper.exists_run_stages_ok`).
-/

namespace MethodOfLines

variable {σ α : Type} [Scalar α]

namespace Stepper

variable (s : Stepper σ α) (clock : Clock α) (grids : List (Grid α)) (memory : σ)

/-- The boundary policy of a shape. -/
def policyOf (d : Descriptor α) : BoundaryPolicy := (s.conditionOf d).policy

/-- What the operations of a stage carry, in a step from a clock's time. -/
def callAt (clock : Clock α) (stage : Stage α) : StageCall α :=
  .ofStage stage (clock.time + stage.c * clock.dt) clock.dt

/-- The commands of one stage of a step. -/
def stageCommands (stage : Stage α) : List (Command α) :=
  Command.forStage s.blockSize s.policyOf ((Pool.slots grids).map (Pool.bind s.streams)) stage
    (callAt clock stage)

theorem commands_begin :
    s.commands clock (s.begin clock grids memory).pool.bindings
      = s.plan.stages.flatMap (s.stageCommands clock grids) := rfl

theorem ready_begin :
    (s.begin clock grids memory).pool.Ready s.streams (Pool.slots grids) Prod.snd :=
  Pool.ready_spawn s.streams grids memory

variable {s clock grids memory} {p : Progress σ α}

theorem step_of_run_ok (hp : s.poisoned = false)
    (h : Progress.run s.operators (s.plan.stages.flatMap (s.stageCommands clock grids))
      (s.begin clock grids memory) = (.ok (), p)) : s.step clock grids memory = s.succeed p := by
  simp only [step, hp, commands_begin, h, Bool.false_eq_true, if_false]

theorem step_of_run_error (hp : s.poisoned = false) {error : StepError}
    (h : Progress.run s.operators (s.plan.stages.flatMap (s.stageCommands clock grids))
      (s.begin clock grids memory) = (.error error, p)) :
    s.step clock grids memory = s.fail clock.time error p := by
  simp only [step, hp, commands_begin, h, Bool.false_eq_true, if_false]

/-- **A step succeeds only if its commands do.** -/
theorem run_of_result_ok {report : Report α} (h : (s.step clock grids memory).result = .ok report) :
    ∃ p, Progress.run s.operators (s.plan.stages.flatMap (s.stageCommands clock grids))
        (s.begin clock grids memory) = (.ok (), p)
      ∧ s.step clock grids memory = s.succeed p := by
  cases hp : s.poisoned with
  | true =>
    rw [step, hp, if_pos rfl] at h
    exact absurd h (by simp)
  | false =>
    match hrun : Progress.run s.operators (s.plan.stages.flatMap (s.stageCommands clock grids))
        (s.begin clock grids memory) with
    | (.ok (), p) => exact ⟨p, rfl, step_of_run_ok hp hrun⟩
    | (.error error, p) =>
      rw [step_of_run_error hp hrun] at h
      exact absurd h (by simp [fail])

/-- **A step loses no stream**, if no collaborator crashes on its grids. -/
theorem statusOf_run_stages (hc : ∀ g ∈ grids, s.operators.NeverCrashOn g)
    (stages : List (Stage α)) :
    ∀ {p : Progress σ α} {current : Nat × Grid α → Grid α},
      p.pool.Ready s.streams (Pool.slots grids) current →
      (∀ e ∈ Pool.slots grids, e.2.Refills (current e)) → ∀ i,
      (Progress.run s.operators (stages.flatMap (s.stageCommands clock grids)) p).2.pool.statusOf i
        ≠ .crashed := by
  induction stages with
  | nil =>
    intro p current h _ i
    rw [List.flatMap_nil, Progress.run, h.done]
    simp
  | cons stage stages ih =>
    intro p current h hrefills i
    have hstage := Progress.statusOf_run_forStage h (Pool.nodup_slots grids)
      (fun e he => Progress.rowOutcome_ne_crashed (hc e.2 (Pool.mem_of_mem_slots he)) s.blockSize
        s.policyOf stage (callAt clock stage) (hrefills e he)) i
    rw [List.flatMap_cons, Progress.run_append]
    rcases hrun : Progress.run s.operators (s.stageCommands clock grids stage) p with ⟨error | _, q⟩
    · rw [stageCommands] at hrun
      rw [hrun] at hstage
      exact hstage
    · obtain ⟨μ, -, -, hready⟩ := Progress.ready_of_run_forStage h (Pool.nodup_slots grids) hrun
      exact ih hready
        (fun e he => (hrefills e he).trans (Binding.refills_outcome s.operators _ _ _ _)) i

/-- **A step in which every row is done succeeds.**  The rows need to be done on any contents of the
grids. -/
theorem exists_run_stages_ok {stages : List (Stage α)}
    (hl : ∀ stage ∈ stages, ∀ e ∈ Pool.slots grids,
      (Pool.bind s.streams e).refusal? s.blockSize stage = none)
    (hd : ∀ stage ∈ stages, ∀ e ∈ Pool.slots grids, ∀ g, e.2.Refills g → ∀ memory,
      (Progress.rowOutcome s.operators s.blockSize s.policyOf s.streams stage (callAt clock stage)
        e g memory).verdict = .done) :
    ∀ {p : Progress σ α} {current : Nat × Grid α → Grid α},
      p.pool.Ready s.streams (Pool.slots grids) current →
      (∀ e ∈ Pool.slots grids, e.2.Refills (current e)) →
      ∃ p', Progress.run s.operators (stages.flatMap (s.stageCommands clock grids)) p
        = (.ok (), p') := by
  induction stages with
  | nil => exact fun {p} _ _ _ => ⟨p, rfl⟩
  | cons stage stages ih =>
    intro p current h hrefills
    obtain ⟨q, hrun⟩ := Progress.exists_run_forStage_ok h (Pool.nodup_slots grids)
      (hl stage List.mem_cons_self)
      fun e he => hd stage List.mem_cons_self e he (current e) (hrefills e he)
    obtain ⟨μ, -, -, hready⟩ := Progress.ready_of_run_forStage h (Pool.nodup_slots grids) hrun
    rw [List.flatMap_cons, Progress.run_append, stageCommands, hrun]
    exact ih (fun stage' h' => hl stage' (List.mem_cons_of_mem _ h'))
      (fun stage' h' => hd stage' (List.mem_cons_of_mem _ h')) hready
      fun e he => (hrefills e he).trans (Binding.refills_outcome s.operators _ _ _ _)

end Stepper

/-! ## Small grids and a stepper for them -/

/-- A grid of two points, with sevens in the buffers beside the state. -/
def Grid.pair (id : GridId) (boundary : BoundaryCondition) (x y : Rat) : Grid Rat where
  descriptor :=
    { id, boundary
      interior := ⟨2, 1, 1⟩
      ghosts := 0
      spacing := .uniform 1
      interior_pos := by decide
      points_lt := by decide }
  functions :=
    { points := 2
      fields := 1
      buffers := { Buffers.fill 2 7 with state := #v[x, y] }
      fields_pos := by decide
      size_lt := by decide }

/-- A row of two points is not empty. -/
theorem Axes.row_pos : 0 < (⟨2, 1, 1⟩ : Axes Nat).i0 ∧ 0 < (⟨2, 1, 1⟩ : Axes Nat).i1
    ∧ 0 < (⟨2, 1, 1⟩ : Axes Nat).i2 := ⟨Nat.two_pos, Nat.one_pos, Nat.one_pos⟩

/-- A launch over two elements, in blocks of one. -/
def Launch.pair : Launch where
  total := 2
  blockSize := 1
  total_pos := Nat.two_pos
  blockSize_pos := Nat.one_pos
  blockSize_le := Nat.le_of_ble_eq_true rfl
  blocks_le := Nat.le_of_ble_eq_true rfl

/-- Heun's method of third order on two streams, one element per block, for given collaborators. -/
def Stepper.heunThird (rhs : Rhs σ Rat) (boundary : Enforcer σ Rat) : Stepper σ Rat where
  plan := ⟨Tableau.heunThird, by decide⟩
  operators := { rhs, boundary, checkFinite := true }
  outerBoundary := none
  streams := 2
  blockSize := 1
  phase := .awaitingStage 1
  poisoned := false
  lastMetrics := {}
  streams_pos := by decide
  blockSize_pos := by decide
  blockSize_le := by decide

/-- Rules that fail calls cost this stepper no stream. -/
theorem Stepper.neverCrash_heunThird {rules : List (FaultRule Rat)}
    (hr : ∀ r ∈ rules, ∃ reason, r.action = .fail reason ∨ r.action = .failAfter reason)
    (a b c : Rat) (g : Grid Rat) :
    (heunThird (.faulty rules (.affine a b c) : Rhs σ Rat) .none).operators.NeverCrashOn g where
  rhs ctx _ _ _ out memory :=
    FaultRule.guard_ne_crashed hr ctx .rhs out memory (by simp [Rhs.affine])
  apply _ _ _ _ _ := by simp [heunThird, Enforcer.none]
  radiation _ _ _ _ _ _ := by simp [heunThird, Enforcer.none]

end MethodOfLines
