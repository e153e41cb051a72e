import MethodOfLines.Stepper.Config
import MethodOfLines.Stepper.Script

/-!
# Stepper/Basic — one Runge-Kutta step over a list of grids

A stepper holds the plan of its scheme and its collaborators. A step advances every grid by the
clock's step; if it succeeds the clock counts it, and if anything in it fails the clock is put back,
the stepper is *poisoned*, and takes no further step.
-/

namespace MethodOfLines

/-- **What a successful step reports.** -/
structure Report (α : Type) where
  iteration : Nat
  time : α
  metrics : Metrics

/-- **A stepper.** -/
structure Stepper (σ α : Type) [Scalar α] where
  plan : Plan α
  operators : Operators σ α
  /-- The boundary condition for all grids, if there is one. -/
  outerBoundary : Option BoundaryCondition
  /-- Size of the stream pool. -/
  streams : Nat
  /-- Elements per block of a launch. -/
  blockSize : Nat
  phase : Phase
  poisoned : Bool
  /-- What the last successful step did. -/
  lastMetrics : Metrics
  streams_pos : 0 < streams
  blockSize_pos : 0 < blockSize
  blockSize_le : blockSize ≤ Launch.maxBlockSize

/-- **What a step leaves behind.** -/
structure Advance (σ α : Type) [Scalar α] where
  result : Except StepError (Report α)
  stepper : Stepper σ α
  clock : Clock α
  grids : List (Grid α)
  memory : σ
  events : List (Event α)

namespace Advance

variable {σ α : Type} [Scalar α] {a : Advance σ α}

/-- An error is found in a result without its report. -/
theorem result_of_map {e : StepError} (h : (a.result.map fun _ => ()) = .error e) :
    a.result = .error e := by
  cases hr : a.result with
  | error e' =>
    rw [hr] at h
    exact congrArg _ (Except.error.inj h)
  | ok report =>
    rw [hr] at h
    cases h

/-- So is success. -/
theorem exists_report_of_map (h : (a.result.map fun _ => ()) = .ok ()) :
    ∃ report, a.result = .ok report := by
  cases hr : a.result with
  | ok report => exact ⟨report, rfl⟩
  | error e =>
    rw [hr] at h
    cases h

end Advance

namespace Stepper

variable {σ α : Type} [Scalar α]

/-- The events of building a stepper. -/
def building (c : Config σ α) (plan : Plan α) (outer : Option BoundaryCondition) :
    List (Event α) :=
  (match outer with
    | some (.other tag) => [.unknownOuterBoundary tag]
    | _ => [])
    ++ [.stepperBuilt plan.name plan.stages.length c.streamPoolSize c.blockSize c.rhs.name
      c.boundary.name]

/-- **A stepper built from a configuration**, and what was reported meanwhile: there must be
streams, the block size must be allowed, and the scheme must run in four buffers, tested in this
order. -/
def make (c : Config σ α) : Except (ConfigError α) (Stepper σ α × List (Event α)) :=
  if hStreams : c.streamPoolSize = 0 then .error .zeroStreams
  else if hBlock : c.blockSize = 0 ∨ Launch.maxBlockSize < c.blockSize then
    .error (.invalidBlockSize c.blockSize)
  else match Plan.ofTableau c.scheme with
    | .error e => .error (.scheme e)
    | .ok plan =>
      let outer := c.outerTag.map BoundaryCondition.ofTag
      .ok
        ({ plan
           operators := c.operators
           outerBoundary := outer
           streams := c.streamPoolSize
           blockSize := c.blockSize
           phase := .awaitingStage 1
           poisoned := false
           lastMetrics := {}
           streams_pos := Nat.pos_of_ne_zero hStreams
           blockSize_pos := by omega
           blockSize_le := by omega }, building c plan outer)

/-- The boundary condition of a grid: the run-wide one, or its own. -/
def conditionOf (s : Stepper σ α) (d : Descriptor α) : BoundaryCondition :=
  s.outerBoundary.getD d.boundary

/-- **The boundary condition a step applies to a grid.** -/
def boundaryFor (s : Stepper σ α) (g : Grid α) : BoundaryCondition := s.conditionOf g.descriptor

/-- A description of the stepper. -/
def describe (s : Stepper σ α) : String :=
  let outer := match s.outerBoundary with
    | none => "None"
    | some .extrapolation => "Some(Extrapolation)"
    | some .radiation => "Some(Radiation)"
    | some (.other tag) => "Some(Other(" ++ Text.quoted tag ++ "))"
  let phase := match s.phase with
    | .awaitingStage number => s!"AwaitingStage({number})"
    | .complete => "Complete"
  "MolStepper \x7b scheme: " ++ Text.quoted s.plan.name ++ s!", streams: {s.streams}"
    ++ s!", launcher: StageLauncher \x7b block_size: {s.blockSize} \x7d"
    ++ ", outer_boundary: " ++ outer ++ ", phase: " ++ phase ++ s!", poisoned: {s.poisoned} \x7d"

/-! ## Validation of grids -/

/-- The first fault of a grid, given the ids before it and the number of fields it should have:
buffers that do not fit, an id used before, another number of fields. -/
def gridFault? (seen : List GridId) (fields : Nat) (g : Grid α) : Option GridError :=
  match g.functions.validateAgainst g.descriptor with
  | .error e => some e
  | .ok () =>
    if seen.contains g.id then some (.duplicateGridId g.id)
    else if g.functions.fields ≠ fields then
      some (.fieldCountMismatch g.id fields g.functions.fields)
    else none

/-- The warning about a grid whose boundary tag is not known. -/
def boundaryWarning (s : Stepper σ α) (g : Grid α) : List (Event α) :=
  match s.boundaryFor g with
  | .other tag => [.unknownBoundary g.id tag]
  | _ => []

/-- The grids after those with the ids `seen`, up to the first fault. -/
def validateFrom (s : Stepper σ α) (fields : Nat) (seen : List GridId) :
    List (Grid α) → Except GridError Unit × List (Event α)
  | [] => (.ok (), [])
  | g :: rest =>
    match gridFault? seen fields g with
    | some e => (.error e, [])
    | none =>
      let (result, events) := s.validateFrom fields (g.id :: seen) rest
      (result, s.boundaryWarning g ++ events)

/-- **Whether a list of grids can be stepped**: buffers fit their shapes, ids are distinct, and all
grids evolve as many fields as the first. -/
def validateGrids (s : Stepper σ α) (grids : List (Grid α)) :
    Except (ConfigError α) Unit × List (Event α) :=
  let fields := (grids.head?.map (·.functions.fields)).getD 0
  let (result, events) := s.validateFrom fields [] grids
  (result.mapError .grid, events)

/-! ## The step -/

/-- A step before its first command. -/
def begin (s : Stepper σ α) (clock : Clock α) (grids : List (Grid α)) (memory : σ) :
    Progress σ α :=
  let pool := Pool.spawn s.streams grids memory
  { pool, clock
    phase := s.phase
    metrics := { streamsUsed := pool.streamsUsed }
    events := [.stepStarted clock.iteration clock.time clock.dt grids.length] }

/-- The end of a step that failed, back at the time it started from. -/
def fail (s : Stepper σ α) (start : α) (error : StepError) (p : Progress σ α) : Advance σ α :=
  { result := .error error
    stepper := { s with phase := p.phase, poisoned := true }
    clock := p.clock.setWorkingTime start
    grids := p.pool.grids
    memory := p.pool.memory
    events := p.events ++ p.pool.closing ++ [.stepFailed p.clock.iteration error] }

/-- The commands of a step over the grids of a pool. -/
def commands (s : Stepper σ α) (clock : Clock α) (grids : List (Binding α)) : List (Command α) :=
  Command.forStep s.blockSize (fun d => (s.conditionOf d).policy) grids s.plan.stages clock.time
    clock.dt

/-- The end of a step whose commands were all carried out. -/
def succeed (s : Stepper σ α) (p : Progress σ α) : Advance σ α :=
  let clock := p.clock.completeStep
  { result := .ok { iteration := clock.iteration, time := clock.time, metrics := p.metrics }
    stepper := { s with phase := .complete, lastMetrics := p.metrics }
    clock
    grids := p.pool.grids
    memory := p.pool.memory
    events := p.events ++ p.pool.closing }

/-- **One step of every grid.** -/
def step (s : Stepper σ α) (clock : Clock α) (grids : List (Grid α)) (memory : σ) : Advance σ α :=
  if s.poisoned then
    { result := .error .poisoned, stepper := s, clock, grids, memory, events := [] }
  else
    let p := s.begin clock grids memory
    match p.run s.operators (s.commands clock p.pool.bindings) with
    | (.ok (), p) => s.succeed p
    | (.error e, p) => s.fail clock.time e p

end Stepper

end MethodOfLines
