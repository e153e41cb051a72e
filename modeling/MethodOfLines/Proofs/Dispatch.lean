import MethodOfLines.Proofs.Blame
import MethodOfLines.Proofs.Calls
import MethodOfLines.Proofs.Numbering

/-!
# Proofs/Dispatch — the dispatch errors of a step

While no collaborator crashes, a step has two ways to fail before a collaborator is asked.  A grid
that is **oversized** is refused when its first launch is formed, and no fence comes before that, so
whatever the streams have met by then does not surface.  A grid whose buffers are not of the length
its shape says fails in its own row, because a row is carried out under the grid's own parameters
(`Binding.of_dispatch_execute`).  No other dispatch error is left (`Stepper.dispatch_cases`).

Grids that have been validated have buffers of the right length and elements that can be counted, so
for them only the number of blocks is in question (`Stepper.fits_of_validateGrids`).
-/

namespace MethodOfLines

variable {σ α : Type}

/-! ## Grids that can be launched -/

theorem Launch.blocksFor_eq_ceilDiv (total : Nat) {blockSize : Nat} (h : 0 < blockSize) :
    blocksFor total blockSize = total ⌈/⌉ blockSize := by
  rw [blocksFor, Nat.ceilDiv_eq_add_pred_div, Nat.add_sub_assoc h]

theorem Launch.make_eq_error_iff {total blockSize : Nat} (ht : 0 < total) (hb : 0 < blockSize)
    (hle : blockSize ≤ maxBlockSize) :
    (∃ fault, make total blockSize = .error fault) ↔ maxBlocks < blocksFor total blockSize := by
  rw [make, dif_neg ht.ne', dif_neg (by omega)]
  split
  · next h => exact iff_of_true ⟨_, rfl⟩ h
  · next h =>
    refine iff_of_false ?_ h
    rintro ⟨_, he⟩
    cases he

section Oversized

variable [Scalar α]

/-- **A grid too large for one launch**: its elements do not fit a word, or their blocks are more
than a launch can have. -/
def Stepper.Oversized (s : Stepper σ α) (g : Grid α) : Prop :=
  2 ^ 64 ≤ g.descriptor.points * g.functions.fields
    ∨ 2 ^ 31 - 1 < (g.descriptor.points * g.functions.fields) ⌈/⌉ s.blockSize

variable {s : Stepper σ α} {g : Grid α}

/-- **The grids that are refused are those that are oversized.**  There is always something to
cover, and the block size of a stepper is one that is allowed. -/
theorem Stepper.refuses_iff_oversized : s.Refuses g ↔ s.Oversized g := by
  have htotal := Nat.mul_pos g.descriptor.points_pos g.functions.fields_pos
  rw [Refuses, Oversized, Launch.forGrid, ← Launch.blocksFor_eq_ceilDiv _ s.blockSize_pos]
  by_cases hfit : g.descriptor.points * g.functions.fields < 2 ^ 64
  · rw [Word.mul?_eq_some.mpr ⟨rfl, hfit⟩, or_iff_right (Nat.not_le.mpr hfit)]
    exact Launch.make_eq_error_iff htotal s.blockSize_pos s.blockSize_le
  · have hnone : Word.mul? g.descriptor.points g.functions.fields = none := if_neg hfit
    rw [hnone]
    exact iff_of_true ⟨_, rfl⟩ (.inl (Nat.le_of_not_lt hfit))

/-- Oversized in the number of its blocks. -/
theorem Stepper.Oversized.lt_of_lt (h : s.Oversized g)
    (hlt : g.descriptor.points * g.functions.fields < 2 ^ 64) :
    (2 ^ 31 - 1) * s.blockSize < g.descriptor.points * g.functions.fields := by
  rcases h with h | h
  · exact absurd hlt (Nat.not_lt.mpr h)
  · rw [Nat.mul_comm]
    exact Nat.lt_of_not_le fun hle =>
      Nat.not_le.mpr h ((ceilDiv_le_iff_le_mul s.blockSize_pos).mpr hle)

end Oversized

/-! ## Validated grids -/

/-- Buffers that were found to fit a shape have its points, and the elements can be counted. -/
theorem FieldSet.of_validateAgainst {f : FieldSet α} {d : Descriptor α}
    (h : f.validateAgainst d = .ok ()) : f.points = d.points ∧ d.points * f.fields < 2 ^ 64 := by
  unfold validateAgainst at h
  cases hm : Word.mul? d.points f.fields with
  | none => rw [hm] at h; cases h
  | some expected =>
    rw [hm] at h
    obtain ⟨rfl, hlt⟩ := Word.mul?_eq_some.mp hm
    refine ⟨Nat.eq_of_mul_eq_mul_right f.fields_pos ?_, hlt⟩
    by_contra hne
    simp only [if_neg (show ¬ f.size = d.points * f.fields from hne)] at h
    cases h

namespace Stepper

variable [Scalar α] {s : Stepper σ α} {clock : Clock α} {grids : List (Grid α)} {memory : σ}

omit [Scalar α] in
theorem validateAgainst_of_gridFault? {seen : List GridId} {fields : Nat} {g : Grid α}
    (h : gridFault? seen fields g = none) : g.functions.validateAgainst g.descriptor = .ok () := by
  unfold gridFault? at h
  split at h
  · cases h
  · assumption

theorem validateAgainst_of_validateFrom {fields : Nat} :
    ∀ {grids : List (Grid α)} {seen : List GridId}, (s.validateFrom fields seen grids).1 = .ok () →
      ∀ g ∈ grids, g.functions.validateAgainst g.descriptor = .ok () := by
  intro grids
  induction grids with
  | nil => exact fun _ g hg => absurd hg List.not_mem_nil
  | cons g grids ih =>
    intro seen h g' hg'
    rw [validateFrom] at h
    cases hfault : gridFault? seen fields g with
    | some e => rw [hfault] at h; cases h
    | none =>
      rw [hfault] at h
      rcases List.mem_cons.mp hg' with rfl | hg'
      · exact validateAgainst_of_gridFault? hfault
      · exact ih h g' hg'

/-- **Validated grids have buffers that fit their shapes**, and elements that can be counted. -/
theorem fits_of_validateGrids (h : (s.validateGrids grids).1 = .ok ()) {g : Grid α}
    (hg : g ∈ grids) :
    g.functions.points = g.descriptor.points
      ∧ g.descriptor.points * g.functions.fields < 2 ^ 64 := by
  have hfrom : (s.validateFrom ((grids.head?.map (·.functions.fields)).getD 0) [] grids).1
      = .ok () := by
    rw [validateGrids] at h
    generalize s.validateFrom _ [] grids = r at h ⊢
    obtain ⟨_ | _, events⟩ := r
    · cases h
    · rfl
  exact FieldSet.of_validateAgainst (validateAgainst_of_validateFrom hfrom g hg)

end Stepper

/-! ## Errors of a row -/

/-- **An error that finds the buffers of a grid not to fit its shape.** -/
structure DispatchError.Misfit (e : DispatchError) (g : Grid α) : Prop where
  grid : g.id = e.grid
  points : g.functions.points ≠ g.descriptor.points
  fault : e.fault = .bufferMismatch (g.descriptor.points * g.functions.fields)
    (g.functions.points * g.functions.fields)

variable [Scalar α]

/-- Only a launch fails in dispatch. -/
theorem Op.exists_launch_of_dispatch {ops : Operators σ α} {stream : StreamIndex}
    {params : Option (Params α)} {g : Grid α} {memory : σ} {op : Op α} {e : DispatchError}
    (h : (op.execute ops stream params g memory).verdict = .failed (.dispatch e)) :
    ∃ call update stageBuffer work, op = .launch call update stageBuffer work := by
  cases op with
  | launch call update stageBuffer work => exact ⟨_, _, _, _, rfl⟩
  | syncParams p => cases h
  | evaluateRhs call input output =>
    simp only [execute, executeRhs] at h
    split at h
    · cases h
    · dsimp only at h
      split at h
      · split at h <;> cases h
      · obtain ⟨reason, he⟩ := Outcome.verdict_eq_failed h
        cases he
  | applyRadiation call input output =>
    simp only [execute, executeRadiation] at h
    split at h
    · cases h
    · obtain ⟨reason, he⟩ := Outcome.verdict_eq_failed h
      cases he
  | applyBoundary call target =>
    obtain ⟨reason, he⟩ := Outcome.verdict_eq_failed h
    cases he

/-- **A row fails in dispatch only if the buffers do not fit the shape.** -/
theorem Binding.of_dispatch_execute {ops : Operators σ α} {b : Binding α} {blockSize : Nat}
    {policy : Descriptor α → BoundaryPolicy} {stage : Stage α} {call : StageCall α} {op : Op α}
    (hop : op ∈ b.row blockSize policy stage call) {g : Grid α} (hg : b.Fits g) {memory : σ}
    {e : DispatchError}
    (h : (op.execute ops b.stream (some (.ofDescriptor b.descriptor)) g memory).verdict
      = .failed (.dispatch e)) : e.Misfit g := by
  obtain ⟨_, _, _, _, hlaunch⟩ := Op.exists_launch_of_dispatch h
  rcases cases_of_mem_row blockSize policy stage call hop with
    rfl | rfl | ⟨work, hwork, rfl⟩ | rfl
  · cases hlaunch
  · cases hlaunch
  · have htotal := (Word.mul?_eq_some.mp (mul?_of_launch hwork)).1
    rw [← hg.descriptor, ← hg.fields] at htotal
    simp only [Op.kernel, Op.execute, executeLaunch_eq hwork hg, ← htotal] at h
    split at h
    · cases h
    · next hne =>
      cases h
      exact ⟨rfl, fun heq => hne (by rw [heq]), rfl⟩
  · cases hlaunch

/-! ## Errors of a step -/

namespace Stepper

variable {s : Stepper σ α} {clock : Clock α} {grids : List (Grid α)} {memory : σ}

/-- **A worker answers in dispatch only for a grid whose buffers do not fit its shape.** -/
theorem of_answered_dispatch {m : Machine σ α} {before current : List (Request α)}
    (h : m.Follows s.operators (Worker.fresh s.streams grids) (s.home grids)
      (s.requests clock grids memory) before current) {lane : Lane α} (hmem : lane ∈ m.lanes)
    {e : DispatchError} (hr : lane.reply = some (some (.dispatch e))) :
    ∃ g ∈ grids, e.Misfit g := by
  obtain ⟨past, turns, hrec, -⟩ := h.lanes lane hmem
  refine status_after_agenda
    (Q := fun v => ∀ e, v = .failed (.dispatch e) → ∃ g ∈ grids, e.Misfit g)
    (fun e he => by cases he) (fun stage _ x hx op hop g memory hg e he => ?_)
    (hrec.isPrefix.trans (h.isPrefix_agenda _)) e (hrec.status_of_reply (fun hl => by cases hl) hr)
  have hmisfit := Binding.of_dispatch_execute hop (Pool.fits_bind hg _) he
  obtain ⟨buffers, rfl⟩ := hg
  exact ⟨x.2, Pool.mem_of_mem_slots hx, hmisfit.grid, hmisfit.points,
    hmisfit.fault⟩

/-- **The dispatch errors of a step**: a launch refused in the first stage, a grid whose buffers do
not fit, and a stream that is lost. -/
theorem dispatch_cases (hp : s.poisoned = false) {schedule : Schedule} {a : Advance σ α}
    (h : s.stepUnder clock grids memory schedule = some a) {e : DispatchError}
    (he : a.result = .error (.dispatch e)) :
    (e.stage = 1 ∧ (∃ reason, e.fault = .invalidLaunch reason)
        ∧ ∃ g ∈ grids, g.id = e.grid ∧ s.Oversized g)
      ∨ (∃ g ∈ grids, e.Misfit g)
      ∨ ∃ lane ∈ (s.machine clock grids memory schedule).lanes, lane.stream.worker.lost = true
        ∧ e.fault = .streamLost lane.stream.index ∧ s.Serves grids lane.stream.index e.grid
        ∧ ∃ stage ∈ s.plan.stages, stage.number = e.stage ∧ stage.kernelName = e.kernel := by
  obtain ⟨before, current, hfollows⟩ := s.follows_machine clock grids memory schedule
  rcases refusal_or_blames (by simp [hp]) h he with ⟨error, herror, hrefusal⟩ | hblames
  · obtain rfl := StepError.dispatch.inj herror
    obtain ⟨hstage, ⟨g, hg, hid, hfault⟩, -⟩ := requests_of_refusal memory hrefusal
    exact .inl ⟨hstage, Launch.exists_reason_of_forGrid hfault, g, hg, hid,
      refuses_iff_oversized.mp ⟨_, hfault⟩⟩
  · cases hblames with
    | answered hmem hr => exact .inr (.inl (of_answered_dispatch hfollows hmem hr))
    | gone hmem hl hrequest hid =>
      exact .inr (.inr ⟨_, hmem, hl, rfl, hid, exists_stage_of_mem_requests hrequest⟩)

/-- Without a fence there is nothing to fail for, if no stream is lost. -/
theorem error_not_mem_results {m : Machine σ α} {before current : List (Request α)}
    (h : m.Follows s.operators (Worker.fresh s.streams grids) (s.home grids)
      (s.requests clock grids memory) before current) (hc : ∀ g ∈ grids, s.operators.NeverCrashOn g)
    (hfree : ∀ stage, .fence stage ∉ s.requests clock grids memory) (e : StepError) :
    .error e ∉ m.results := by
  intro he
  obtain ⟨stage, rest, hreq, -⟩ := h.exists_fence (h.lost_eq_false hc) he
  refine hfree stage ?_
  rw [hreq]
  exact List.mem_append_right _ List.mem_cons_self

/-- A step in which a launch is refused comes to no fence. -/
theorem fence_not_mem_of_refusal (memory : σ) {error : DispatchError}
    (h : Command.refusal? (s.plan.stages.flatMap (s.stageCommands clock grids)) = some error)
    (stage : Stage α) : .fence stage ∉ s.requests clock grids memory := by
  rw [(requests_of_refusal memory h).2.2]
  intro hmem
  obtain ⟨b, -, hmem⟩ := List.mem_flatMap.mp hmem
  obtain ⟨op, -, hop⟩ := List.mem_map.mp hmem
  cases hop

/-- **An oversized grid ends the step**, if no stream is lost. -/
theorem exists_refusal_of_oversized (hp : s.poisoned = false)
    (hc : ∀ g ∈ grids, s.operators.NeverCrashOn g) {schedule : Schedule} {a : Advance σ α}
    (h : s.stepUnder clock grids memory schedule = some a) (hg : ∃ g ∈ grids, s.Oversized g) :
    ∃ e reason, a.result = .error (.dispatch e) ∧ e.fault = .invalidLaunch reason := by
  obtain ⟨g, hg, hover⟩ := hg
  rw [stepUnder_eq (by simp [hp]), Option.ite_none_right_eq_some] at h
  obtain ⟨hfinished, ha⟩ := h
  obtain rfl := Option.some.inj ha
  obtain ⟨before, current, hending⟩ := exists_ending_machine hfinished
  have hrefuses := refuses_iff_oversized.mpr hover
  rcases s.conclude_cases clock grids memory _ (s.machine clock grids memory schedule).pool with
    ⟨p, hr, hend⟩ | ⟨e, p, hr, hend⟩
  · exact absurd hrefuses ((hending.agenda_of_ok (by rw [hend]; rfl)).2 g hg)
  · obtain ⟨error, herror⟩ := Option.ne_none_iff_exists'.mp fun hnone =>
      not_refuses_of_refusal? hnone g hg hrefuses
    have hnone := error_not_mem_results hending.follows hc
      (fence_not_mem_of_refusal memory herror) e
    rcases Progress.replay_error (congrArg Prod.fst hr) with hmem | ⟨error', rfl, hrefusal, -⟩
    · exact absurd hmem hnone
    · obtain ⟨-, ⟨_, -, -, hfault⟩, -⟩ := requests_of_refusal memory hrefusal
      obtain ⟨reason, hreason⟩ := Launch.exists_reason_of_forGrid hfault
      exact ⟨error', reason, by rw [hend]; rfl, hreason⟩

/-- **Dispatch errors are exactly the unfit and the oversized grids**, if no collaborator crashes.
Every schedule of a step can be continued to an end.  However the step ends, its error never says
that parameters were stale or a stream was lost.  It says that a launch is invalid if and only if a
grid is oversized, and then in the first stage and of such a grid.  It says that buffers do not
match only of a grid whose buffers do not have the points of its shape, with the elements of the
shape and of the buffers.  So if the grids have been validated, the error can only be that a launch
is invalid, of a grid with too many elements for blocks of this size. -/
theorem dispatch_errors_of_ends (hp : s.poisoned = false)
    (hc : ∀ g ∈ grids, s.operators.NeverCrashOn g) :
    (∀ schedule, ∃ more, (s.stepUnder clock grids memory (schedule ++ more)).isSome = true)
      ∧ ∀ {a}, s.Ends clock grids memory a →
        (∀ e, a.result = .error (.dispatch e) →
            (∀ expected found, e.fault ≠ .staleParams expected found)
              ∧ (∀ stream, e.fault ≠ .streamLost stream)
              ∧ (∀ reason, e.fault = .invalidLaunch reason →
                e.stage = 1 ∧ ∃ g ∈ grids, g.id = e.grid ∧ s.Oversized g)
              ∧ ∀ expected actual, e.fault = .bufferMismatch expected actual → ∃ g ∈ grids,
                g.id = e.grid ∧ g.functions.points ≠ g.descriptor.points
                  ∧ expected = g.descriptor.points * g.functions.fields
                  ∧ actual = g.functions.points * g.functions.fields)
          ∧ ((∃ e reason, a.result = .error (.dispatch e) ∧ e.fault = .invalidLaunch reason)
            ↔ ∃ g ∈ grids, s.Oversized g)
          ∧ ((s.validateGrids grids).1 = .ok () → ∀ e, a.result = .error (.dispatch e) →
            e.stage = 1 ∧ (∃ reason, e.fault = .invalidLaunch reason) ∧ ∃ g ∈ grids, g.id = e.grid
              ∧ (2 ^ 31 - 1) * s.blockSize < g.descriptor.points * g.functions.fields) := by
  refine ⟨s.exists_stepUnder_append clock grids memory, fun {a} h => ?_⟩
  obtain ⟨schedule, hstep⟩ := h
  obtain ⟨before, current, hfollows⟩ := s.follows_machine clock grids memory schedule
  have hcases : ∀ e, a.result = .error (.dispatch e) →
      (e.stage = 1 ∧ (∃ reason, e.fault = .invalidLaunch reason)
          ∧ ∃ g ∈ grids, g.id = e.grid ∧ s.Oversized g)
        ∨ ∃ g ∈ grids, e.Misfit g := by
    intro e he
    rcases dispatch_cases hp hstep he with hover | hmisfit | ⟨lane, hmem, hl, -⟩
    · exact .inl hover
    · exact .inr hmisfit
    · rw [hfollows.lost_eq_false hc lane hmem] at hl
      cases hl
  refine ⟨fun e he => ?_, ⟨?_, exists_refusal_of_oversized hp hc hstep⟩, fun hvalid e he => ?_⟩
  · rcases hcases e he with ⟨hstage, ⟨reason, hreason⟩, hgrid⟩ | ⟨g, hg, hmisfit⟩
    · rw [hreason]
      exact ⟨by simp, by simp, fun _ _ => ⟨hstage, hgrid⟩, by simp⟩
    · rw [hmisfit.fault]
      refine ⟨by simp, by simp, by simp, fun expected actual heq => ?_⟩
      obtain ⟨rfl, rfl⟩ := DispatchFault.bufferMismatch.inj heq
      exact ⟨g, hg, hmisfit.grid, hmisfit.points, rfl, rfl⟩
  · rintro ⟨e, reason, he, hreason⟩
    rcases hcases e he with ⟨-, -, g, hg, -, hover⟩ | ⟨g, -, hmisfit⟩
    · exact ⟨g, hg, hover⟩
    · rw [hmisfit.fault] at hreason
      cases hreason
  · rcases hcases e he with ⟨hstage, hreason, g, hg, hid, hover⟩ | ⟨g, hg, hmisfit⟩
    · exact ⟨hstage, hreason, g, hg, hid, hover.lt_of_lt (fits_of_validateGrids hvalid hg).2⟩
    · exact absurd (fits_of_validateGrids hvalid hg).1 hmisfit.points

end Stepper

/-- A row of points, of which the buffers hold a given number. -/
def Grid.holding (id : GridId) (points held : Nat) (hpos : 0 < points) (hlt : points < Word.limit)
    (hheld : held < Word.limit) : Grid Rat where
  descriptor :=
    { id
      boundary := .extrapolation
      interior := ⟨points, 1, 1⟩
      ghosts := 0
      spacing := .uniform 1
      interior_pos := ⟨hpos, Nat.one_pos, Nat.one_pos⟩
      points_lt := by simpa [volume, padded, Axes.map] using hlt }
  functions :=
    { points := held
      fields := 1
      buffers := .fill (held * 1) 0
      fields_pos := Nat.one_pos
      size_lt := by simpa using hheld }

/-- With one element per block, a grid of `2^31` points passes validation and is refused.  A grid of
four points that holds two fails in its row; beside the other it is not heard of, because the
refusal comes before any stream is asked. -/
theorem Stepper.dispatch_errors_of_ends_heunThird :
    let s : Stepper Unit Rat := .heunThird (.faulty [] (.affine 1 2 3)) .none
    let clock : Clock Rat := ⟨0, 1, 0⟩
    let huge := Grid.holding 3 (2 ^ 31) (2 ^ 31) (by decide) (by decide) (by decide)
    let unfit := Grid.holding 5 4 2 (by decide) (by decide) (by decide)
    ((s.validateGrids [huge]).1 = .ok ()
        ∧ ∃ e reason, (s.step clock [huge] ()).result = .error (.dispatch e)
          ∧ e.stage = 1 ∧ e.grid = 3 ∧ e.fault = .invalidLaunch reason)
      ∧ ((s.step clock [unfit] ()).result
          = .error (.dispatch ⟨"rk_substep_1", 1, 5, .bufferMismatch 4 2⟩)
        ∧ unfit.functions.points ≠ unfit.descriptor.points)
      ∧ ∃ e reason, (s.step clock [unfit, huge] ()).result = .error (.dispatch e)
        ∧ e.fault = .invalidLaunch reason := by
  intro s clock huge unfit
  have hc : ∀ g, s.operators.NeverCrashOn g := neverCrash_heunThird (by simp) 1 2 3
  have hover : s.Oversized huge := .inr (by decide +kernel)
  have hvalid : (s.validateGrids [huge]).1 = .ok () := by
    have hok : (s.validateGrids [huge]).1.toOption = some () := by decide +kernel
    generalize (s.validateGrids [huge]).1 = r at hok ⊢
    cases r with
    | error e => cases hok
    | ok u => rfl
  have hunfit : (s.step clock [unfit] ()).result
      = .error (.dispatch ⟨"rk_substep_1", 1, 5, .bufferMismatch 4 2⟩) := by
    have hresult : ((s.step clock [unfit] ()).result.map fun _ => ())
        = .error (.dispatch ⟨"rk_substep_1", 1, 5, .bufferMismatch 4 2⟩) := by decide +kernel
    exact Advance.result_of_map hresult
  have hend (grids : List (Grid Rat)) :=
    (dispatch_errors_of_ends rfl fun g _ => hc g).2 (s.ends_step clock grids ())
  obtain ⟨-, hiff, hall⟩ := hend [huge]
  obtain ⟨hones, -, -⟩ := hend [unfit]
  obtain ⟨-, hboth, -⟩ := hend [unfit, huge]
  refine ⟨⟨hvalid, ?_⟩, ⟨hunfit, ?_⟩, hboth.mpr ⟨huge, by simp, hover⟩⟩
  · obtain ⟨e, reason, he, hreason⟩ := hiff.mpr ⟨huge, by simp, hover⟩
    obtain ⟨hstage, -, g, hg, hid, -⟩ := hall hvalid e he
    obtain rfl := List.mem_singleton.mp hg
    exact ⟨e, reason, he, hstage, hid.symm, hreason⟩
  · obtain ⟨g, hg, -, hpoints, -, -⟩ := (hones _ hunfit).2.2.2 4 2 rfl
    obtain rfl := List.mem_singleton.mp hg
    exact hpoints

end MethodOfLines
