import MethodOfLines.Proofs.Recursion
import MethodOfLines.Proofs.Step

/-!
# Proofs/FourBuffers — the commands of a step are the textbook recursion, operation by operation

The collaborators enter a step as functions: a right-hand side that **overwrites** its output makes
of it what it makes of a fresh buffer, so a stage's slope is a function of its argument alone.  With
this the row of a stage, if it is done, is `Stage.advance` on the buffers of the grid
(`Binding.effect_row`), and the commands of a step, if they succeed, leave every grid with the
buffers of its own `Recursion` (`Stepper.grids_of_run_ok`).  No law of the arithmetic is used.
-/

namespace MethodOfLines

variable {σ α : Type}

/-! ## Collaborators on fresh buffers -/

namespace Operators

variable {n : Nat}

/-- The rates of an argument in a fresh buffer, corrected at the boundary or not. -/
def slopeOf [Zero α] (ops : Operators σ α) (radiates : Bool) (memory : σ) (ctx : Context α)
    (x : Vector α n) : Vector α n :=
  let rates := (ops.rhs.evaluate ctx x (Vector.replicate n 0) memory).buffer
  if radiates then (ops.boundary.applyRadiation ctx x rates memory).buffer else rates

/-- Values corrected at the boundary or not. -/
def settled (ops : Operators σ α) (extrapolates : Bool) (memory : σ) (ctx : Context α)
    (v : Vector α n) : Vector α n :=
  if extrapolates then (ops.boundary.apply ctx v memory).buffer else v

end Operators

namespace Buffers

variable {n : Nat}

theorem set_set (b : Buffers α n) (role : Role) (v w : Vector α n) :
    (b.set role v).set role w = b.set role w := by
  cases role <;> rfl

theorem set_get (b : Buffers α n) (role : Role) : b.set role (b.get role) = b := by
  cases role <;> rfl

end Buffers

/-! ## The effect of operations that are done -/

theorem Outcome.eq_done_of_verdict {wrap : EvalError → StepError} {o : Outcome}
    (h : o.verdict wrap = .done) : o = .done := by
  cases o with
  | done => rfl
  | _ => cases h

namespace Op

variable [Scalar α] (ops : Operators σ α) (stream : StreamIndex) (params : Option (Params α))
  (g : Grid α)

/-- **The effect of operations on the buffers of a grid**, if they are all done. -/
def Effect (l : List (Op α))
    (f : Buffers α (g.functions.points * g.functions.fields) →
      Buffers α (g.functions.points * g.functions.fields)) : Prop :=
  ∀ b memory, (executeAll ops stream params l (g.setBuffers b) memory).verdict = .done →
    (executeAll ops stream params l (g.setBuffers b) memory).grid = g.setBuffers (f b)

variable {ops stream params g}

theorem Effect.nil : Effect ops stream params g [] fun b => b := fun _ _ _ => rfl

theorem Effect.append {l l' : List (Op α)} {f f'} (h : Effect ops stream params g l f)
    (h' : Effect ops stream params g l' f') :
    Effect ops stream params g (l ++ l') fun b => f' (f b) := by
  intro b memory hd
  obtain ⟨hfst, heq⟩ := executeAll_append_done ops stream params hd
  rw [heq, h b memory hfst] at hd ⊢
  exact h' _ _ hd

theorem Effect.ite {l : List (Op α)} {f} {c : Bool}
    (h : c = true → Effect ops stream params g l f) :
    Effect ops stream params g (if c then l else []) fun b => if c then f b else b := by
  cases c with
  | false => exact .nil
  | true => exact h rfl

theorem Effect.congr {l : List (Op α)} {f f'} (h : Effect ops stream params g l f)
    (hf : ∀ b, f b = f' b) : Effect ops stream params g l f' :=
  fun b memory hd => (h b memory hd).trans (congrArg g.setBuffers (hf b))

theorem effect_singleton {op : Op α} {f} (h : ∀ b memory,
      (op.execute ops stream params (g.setBuffers b) memory).verdict = .done →
        (op.execute ops stream params (g.setBuffers b) memory).grid = g.setBuffers (f b)) :
    Effect ops stream params g [op] f := by
  intro b memory hd
  rw [executeAll_singleton] at hd ⊢
  exact h b memory hd

variable (stream params g) (stage : Stage α) (call : StageCall α) (memory : σ)

omit [Scalar α] in
theorem pair?_setBuffers (b : Buffers α (g.functions.points * g.functions.fields)) :
    (g.setBuffers b).functions.buffers.pair? stage.rhsInput stage.rhsOutput
      = some (b.get stage.rhsInput, b.get stage.rhsOutput) :=
  b.pair?_of_ne stage.rhsInput_ne_rhsOutput

/-- Rates are written as into a fresh buffer. -/
theorem effect_rates (hr : ops.rhs.Overwrites) :
    Effect ops stream params g [.rates stage call] fun b =>
      b.set stage.rhsOutput (ops.rhs.evaluate (context stream call g) (b.get stage.rhsInput)
        (Vector.replicate _ 0) memory).buffer := by
  refine effect_singleton fun b memory' hd => ?_
  have hpair := pair?_setBuffers g stage b
  simp only [rates, execute, executeRhs, hpair] at hd ⊢
  have hout : (ops.rhs.evaluate (context stream call (g.setBuffers b)) (b.get stage.rhsInput)
      (b.get stage.rhsOutput) memory').outcome = .done := by
    split at hd
    · next hdone _ => exact hdone
    · exact Outcome.eq_done_of_verdict hd
  exact congrArg (fun v => g.setBuffers (b.set stage.rhsOutput v))
    ((hr _ _ _ (Vector.replicate _ 0) _ memory).2 hout)

theorem effect_radiation (hb : ops.boundary.Functional) :
    Effect ops stream params g [.radiation stage call] fun b =>
      b.set stage.rhsOutput (ops.boundary.applyRadiation (context stream call g)
        (b.get stage.rhsInput) (b.get stage.rhsOutput) memory).buffer := by
  refine effect_singleton fun b memory' _ => ?_
  have hpair := pair?_setBuffers g stage b
  simp only [radiation, execute, executeRadiation, hpair]
  exact congrArg (fun v => g.setBuffers (b.set stage.rhsOutput v))
    (hb.radiation _ _ _ memory' memory).2

theorem effect_boundary (hb : ops.boundary.Functional) :
    Effect ops stream params g [.boundary stage call] fun b =>
      b.set stage.boundaryTarget (ops.boundary.apply (context stream call g)
        (b.get stage.boundaryTarget) memory).buffer :=
  effect_singleton fun b memory' _ =>
    congrArg (fun v => g.setBuffers (b.set stage.boundaryTarget v)) (hb.apply _ _ memory' memory).2

theorem effect_kernel {b : Binding α} {blockSize : Nat} {work : Launch}
    (h : b.launch blockSize stage = .ok work) (hg : b.Fits g) :
    Effect ops stream (some (.ofDescriptor b.descriptor)) g [.kernel stage call work] fun b =>
      b.mapCells (stage.kernel.scale call.dt).apply stage.rhsOutput := by
  refine effect_singleton fun buffers memory hd => ?_
  have hfit : b.Fits (g.setBuffers buffers) := hg.refills ⟨buffers, rfl⟩
  simp only [kernel, execute, Binding.executeLaunch_eq h hfit] at hd ⊢
  split
  · rfl
  · next hne => rw [if_neg hne] at hd; cases hd

end Op

/-- **The row of a stage, if it is done, is the stage on four buffers.**  The enforcer matters only
to a grid whose policy calls it. -/
theorem Binding.effect_row [Scalar α] {ops : Operators σ α} (hr : ops.rhs.Overwrites)
    {policy : Descriptor α → BoundaryPolicy} {b : Binding α}
    (hb : policy b.descriptor ≠ .noOp → ops.boundary.Functional) {g : Grid α} (hg : b.Fits g)
    {blockSize : Nat} {stage : Stage α} (hl : b.refusal? blockSize stage = none)
    (call : StageCall α) (memory : σ) :
    Op.Effect ops b.stream (some (.ofDescriptor b.descriptor)) g (b.row blockSize policy stage call)
      (stage.advance call.dt
        (ops.slopeOf (policy b.descriptor).afterRhs memory (Op.context b.stream call g))
        (ops.settled (policy b.descriptor).afterStage memory (Op.context b.stream call g))) := by
  obtain ⟨work, hwork⟩ : ∃ work, b.launch blockSize stage = .ok work := by
    unfold refusal? at hl
    split at hl
    · cases hl
    · exact ⟨_, ‹_›⟩
  have hrow : b.row blockSize policy stage call = [.rates stage call]
      ++ ((if (policy b.descriptor).afterRhs then [.radiation stage call] else [])
        ++ ([.kernel stage call work]
          ++ if (policy b.descriptor).afterStage then [.boundary stage call] else [])) := by
    rw [row, hwork]
    rfl
  have hrad := fun h : (policy b.descriptor).afterRhs = true =>
    Op.effect_radiation b.stream (some (.ofDescriptor b.descriptor)) g stage call memory
      (hb fun hnone => by rw [hnone] at h; cases h)
  have hbnd := fun h : (policy b.descriptor).afterStage = true =>
    Op.effect_boundary b.stream (some (.ofDescriptor b.descriptor)) g stage call memory
      (hb fun hnone => by rw [hnone] at h; cases h)
  have heffect := (Op.effect_rates _ _ g stage call memory hr).append
    ((Op.Effect.ite hrad).append
      ((Op.effect_kernel _ g stage call hwork hg).append (Op.Effect.ite hbnd)))
  rw [hrow]
  refine heffect.congr fun buffers => ?_
  -- the correction of the rates reads the input beside the rates just written
  have hne := stage.rhsInput_ne_rhsOutput
  cases (policy b.descriptor).afterRhs <;> cases (policy b.descriptor).afterStage <;>
    simp [Stage.advance, Operators.slopeOf, Operators.settled, Buffers.get_set_of_ne _ _ hne,
      Buffers.set_set, Buffers.set_get]

/-! ## The stages of a step -/

namespace BoundaryCondition

theorem afterRhs_policy (c : BoundaryCondition) : c.policy.afterRhs = decide (c = .radiation) := by
  cases c <;> simp [policy, BoundaryPolicy.afterRhs]

theorem afterStage_policy (c : BoundaryCondition) :
    c.policy.afterStage = decide (c = .extrapolation) := by
  cases c <;> simp [policy, BoundaryPolicy.afterStage]

end BoundaryCondition

namespace Stepper

variable [Scalar α] (s : Stepper σ α)

/-- What a collaborator is told of a grid in stage `i` of a step. -/
def contextAt (clock : Clock α) (g : Grid α) (i : Nat) : Context α where
  grid := g.descriptor
  time := clock.time + s.plan.tableau.node i * clock.dt
  dt := clock.dt
  stage := i + 1
  stream := g.id % s.streams
  fields := g.functions.fields

/-- **The recursion of one grid in a step.**  The slopes are corrected under radiation, the values
under extrapolation. -/
def recursion (clock : Clock α) (memory : σ) (g : Grid α) :
    Recursion α (g.functions.points * g.functions.fields) where
  start := g.functions.buffers.state
  rate i := s.operators.slopeOf (s.boundaryFor g = .radiation) memory (s.contextAt clock g i)
  settle i := s.operators.settled (s.boundaryFor g = .extrapolation) memory (s.contextAt clock g i)
  weight i := s.plan.tableau.weight i * clock.dt
  next i := s.plan.tableau.entry (i + 1) i * clock.dt

variable {s} {clock : Clock α} {grids : List (Grid α)} (hr : s.operators.rhs.Overwrites)
  (hb : ∀ g ∈ grids, s.policyOf g.descriptor ≠ .noOp → s.operators.boundary.Functional)

include hr hb in
/-- A stage that succeeds advances the buffers of every grid. -/
theorem ready_of_run_stage (memory : σ) {p p' : Progress σ α}
    {B : (e : Nat × Grid α) → Buffers α (e.2.functions.points * e.2.functions.fields)}
    (h : p.pool.Ready s.streams (Pool.slots grids) fun e => e.2.setBuffers (B e)) {i : Nat}
    (hrun : Progress.run s.operators (s.stageCommands clock grids (s.plan.tableau.stage i)) p
      = (.ok (), p')) :
    p'.pool.bindings = p.pool.bindings
      ∧ p'.pool.Ready s.streams (Pool.slots grids) fun e => e.2.setBuffers
          ((s.recursion clock memory e.2).advance s.plan.tableau clock.dt (B e) i) := by
  obtain ⟨μ, hall, hbind, hready⟩ :=
    Progress.ready_of_run_forStage h (Pool.nodup_slots grids) hrun
  refine ⟨hbind, hready.congr fun e he => ?_⟩
  obtain ⟨hl, hd⟩ := hall e he
  have hfits : (Pool.bind s.streams e).Fits e.2 := ⟨rfl, rfl⟩
  have hb' := hb e.2 (Pool.mem_of_mem_slots he)
  have heffect := Binding.effect_row hr hb' hfits hl (callAt clock (s.plan.tableau.stage i)) memory
    (B e) (μ e.1) hd
  refine heffect.trans (congrArg e.2.setBuffers ?_)
  have hrad := BoundaryCondition.afterRhs_policy (s.boundaryFor e.2)
  have hext := BoundaryCondition.afterStage_policy (s.boundaryFor e.2)
  rw [Recursion.advance, recursion, ← hrad, ← hext]
  rfl

include hr hb in
/-- **Stages that succeed advance the buffers of every grid**, each by its own recursion. -/
theorem ready_of_run_stages (memory : σ) (is : List Nat) :
    ∀ {p p' : Progress σ α}
      {B : (e : Nat × Grid α) → Buffers α (e.2.functions.points * e.2.functions.fields)},
      (p.pool.Ready s.streams (Pool.slots grids) fun e => e.2.setBuffers (B e)) →
      Progress.run s.operators
          ((is.map s.plan.tableau.stage).flatMap (s.stageCommands clock grids)) p = (.ok (), p') →
      p'.pool.bindings = p.pool.bindings
        ∧ p'.pool.Ready s.streams (Pool.slots grids) fun e => e.2.setBuffers
            (is.foldl ((s.recursion clock memory e.2).advance s.plan.tableau clock.dt) (B e)) := by
  induction is with
  | nil =>
    intro p p' B h hrun
    obtain ⟨-, rfl⟩ := Prod.mk.inj hrun
    exact ⟨rfl, h⟩
  | cons i is ih =>
    intro p p' B h hrun
    obtain ⟨q, hq, hrest⟩ := Progress.run_append_ok _ hrun
    obtain ⟨hbind, hready⟩ := ready_of_run_stage hr hb memory h hq
    obtain ⟨hbind', hready'⟩ := ih hready hrest
    exact ⟨hbind'.trans hbind, hready'⟩

/-- The stages of a step, carried out on the buffers of one grid. -/
theorem foldl_recursion (memory : σ) (g : Grid α) :
    (List.range s.plan.tableau.stages).foldl
        ((s.recursion clock memory g).advance s.plan.tableau clock.dt) g.functions.buffers
      = (s.recursion clock memory g).finished g.functions.buffers (s.plan.tableau.stages - 1) := by
  have hpos : 0 < s.plan.tableau.stages := s.plan.tableau.stages_pos
  exact Recursion.foldl_advance (fun _ => rfl) (fun _ => rfl) rfl (by omega)

include hr hb in
/-- The grids that are left where the commands of a step succeed. -/
theorem grids_of_run_ok (memory memory' : σ) {p : Progress σ α}
    (hrun : Progress.run s.operators (s.plan.stages.flatMap (s.stageCommands clock grids))
      (s.begin clock grids memory) = (.ok (), p)) :
    p.pool.grids = grids.map fun g => g.setBuffers ((s.recursion clock memory' g).finished
      g.functions.buffers (s.plan.tableau.stages - 1)) := by
  obtain ⟨hbind, hready⟩ := ready_of_run_stages hr hb memory' _
    (B := fun e => e.2.functions.buffers) (s.ready_begin clock grids memory) hrun
  refine Pool.grids_eq_map (hbind.trans (Pool.bindings_spawn ..)) fun e he => ?_
  rw [hready.grids e he, foldl_recursion]

end Stepper

end MethodOfLines
