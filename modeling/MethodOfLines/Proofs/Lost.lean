import MethodOfLines.Proofs.Crashes
import MethodOfLines.Proofs.Dispatch

/-!
# Proofs/Lost — a stream that is lost never passes for success

A worker is lost if and only if a call it made crashed (`Stepper.lost_machine_iff`).  One that is
lost stays lost, and is heard of at the next fence at the latest; a step that succeeds has come past
its last fence (`Stepper.not_lost_of_ok`).
-/

namespace MethodOfLines

variable {σ α : Type} [Scalar α]

namespace Stepper

variable {s : Stepper σ α} {clock : Clock α} {grids : List (Grid α)} {memory : σ}
  {m : Machine σ α} {before current : List (Request α)} {schedule : Schedule} {t : StreamIndex}

/-! ## The end of a step -/

/-- **At the end of a step that succeeds nothing is wrong with any worker**, and none has answered
with an error. -/
theorem Ending.status_of_ok (h : s.Ending clock grids memory before current m) {report : Report α}
    (hok : (s.conclude clock grids memory m.results m.pool).result = .ok report) :
    ∀ lane ∈ m.lanes, lane.stream.worker.status = .done ∧ lane.reply.join = none := by
  obtain ⟨hmade, -⟩ := h.agenda_of_ok hok
  obtain rfl := h.current_of_ok hmade
  exact h.follows.status_of_passed

/-- **A step that succeeds has lost no stream.** -/
theorem not_lost_of_ok (h : s.Ending clock grids memory before current m) {report : Report α}
    (hok : (s.conclude clock grids memory m.results m.pool).result = .ok report) : ¬ m.Lost t := by
  rintro ⟨lane, hmem, -, hl⟩
  obtain ⟨hs, -⟩ := h.status_of_ok hok lane hmem
  cases hl.symm.trans (Worker.status_eq_done.mp hs).1

/-- **A step in which a call crashes fails.** -/
theorem fails_of_crashesOn {a : Advance σ α}
    (h : s.stepUnder clock grids memory schedule = some a)
    (hcrash : s.CrashesOn clock grids memory schedule t) :
    ∃ e n, a.result = .error e ∧ e.stage? = some n ∧ a.clock = clock
      ∧ a.stepper = { s with phase := .awaitingStage n, poisoned := true } := by
  rcases Ends.cases ⟨schedule, h⟩ with ⟨hp, -⟩ | ⟨hp, metrics, hok, -⟩ | ⟨-, hfail⟩
  · cases hp.symm.trans hcrash.1
  · rw [stepUnder_eq (by simp [hp]), Option.ite_none_right_eq_some] at h
    obtain ⟨hfinished, ha⟩ := h
    obtain rfl := Option.some.inj ha
    obtain ⟨before, current, hending⟩ := exists_ending_machine hfinished
    exact absurd ((lost_machine_iff hp).mpr hcrash) (not_lost_of_ok hending hok)
  · exact hfail

/-- **A stream that is reported lost is one that a call crashed on.** -/
theorem crashesOn_of_streamLost {a : Advance σ α}
    (h : s.stepUnder clock grids memory schedule = some a) {e : DispatchError}
    (he : a.result = .error (.dispatch e)) (hfault : e.fault = .streamLost t) :
    s.CrashesOn clock grids memory schedule t ∧ s.Serves grids t e.grid
      ∧ ∃ stage ∈ s.plan.stages, stage.number = e.stage ∧ stage.kernelName = e.kernel := by
  cases hp : s.poisoned with
  | true =>
    rw [stepUnder_of_poisoned hp] at h
    rw [← Option.some.inj h] at he
    cases he
  | false =>
    rcases dispatch_cases hp h he with ⟨-, ⟨reason, hreason⟩, -⟩ | ⟨g, -, hmisfit⟩ |
      ⟨lane, hmem, hl, hlane, hserves, hstage⟩
    · cases hreason.symm.trans hfault
    · cases hmisfit.fault.symm.trans hfault
    · obtain rfl := DispatchFault.streamLost.inj (hlane.symm.trans hfault)
      exact ⟨(lost_machine_iff hp).mp ⟨lane, hmem, rfl, hl⟩, hserves, hstage⟩

/-- **A lost stream never passes for success.**  Every schedule of a step can be continued to its
end.  If a call of a collaborator crashes before that, the step returns an error that names the
stage of the phase, the stepper is poisoned and the clock is as before.  If the error says that a
stream was lost, a call did crash on that stream; the error names a grid of the list that is bound
to it, and the kernel of its stage.  So a step in which no call crashes does not say so. -/
theorem lost_streams_are_reported (s : Stepper σ α) (clock : Clock α) (grids : List (Grid α))
    (memory : σ) (schedule : Schedule) :
    (∃ more, (s.stepUnder clock grids memory (schedule ++ more)).isSome = true)
      ∧ ∀ a, s.stepUnder clock grids memory schedule = some a →
        ((∃ t, s.CrashesOn clock grids memory schedule t) →
            ∃ e n, a.result = .error e ∧ e.stage? = some n ∧ a.clock = clock
              ∧ a.stepper = { s with phase := .awaitingStage n, poisoned := true })
          ∧ (∀ e t, a.result = .error (.dispatch e) → e.fault = .streamLost t →
            s.CrashesOn clock grids memory schedule t
              ∧ (∃ g ∈ grids, g.id = e.grid) ∧ e.grid % s.streams = t
              ∧ ∃ stage ∈ s.plan.stages, stage.number = e.stage ∧ stage.kernelName = e.kernel)
          ∧ ((∀ t, ¬ s.CrashesOn clock grids memory schedule t) →
            ∀ e t, a.result = .error (.dispatch e) → e.fault ≠ .streamLost t) := by
  refine ⟨s.exists_stepUnder_append clock grids memory schedule, fun a h =>
    ⟨fun ⟨t, hcrash⟩ => fails_of_crashesOn h hcrash, fun e t he hfault => ?_,
      fun hnone e t he hfault => hnone t (crashesOn_of_streamLost h he hfault).1⟩⟩
  obtain ⟨hcrash, ⟨hgrid, hstream⟩, hstage⟩ := crashesOn_of_streamLost h he hfault
  exact ⟨hcrash, hgrid, hstream, hstage⟩

/-- The right-hand side of grid 3 crashes in the second stage, with the other rows of its stream
still in the queue.  What is left of the step is to hear of it. -/
theorem lost_streams_are_reported_heunThird :
    let rule : FaultRule Rat := ⟨some 3, some 2, none, .crash⟩
    let s : Stepper Unit Rat := .heunThird (.faulty [rule] (.affine 1 2 3)) .none
    let clock : Clock Rat := ⟨0, 1, 0⟩
    let grids := [Grid.pair 0 .radiation 1 2, Grid.pair 3 .extrapolation 3 4,
      Grid.pair 5 .radiation 5 6]
    let schedule := (List.replicate 3 (List.replicate 15 Actor.issuer
      ++ List.replicate 9 (.worker 1) ++ List.replicate 5 (.worker 0) ++ [.issuer])).flatten
    ∃ a, s.stepUnder clock grids () schedule = some a
      ∧ a.result = .error (.dispatch ⟨"rk_substep_2", 2, 5, .streamLost 1⟩)
      ∧ s.CrashesOn clock grids () schedule 1 ∧ a.clock = clock
      ∧ a.stepper = { s with phase := .awaitingStage 2, poisoned := true } := by
  intro rule s clock grids schedule
  have hsome : ((s.stepUnder clock grids () schedule).map fun a => a.result.map fun _ => ())
      = some (.error (.dispatch ⟨"rk_substep_2", 2, 5, .streamLost 1⟩)) := by decide +kernel
  obtain ⟨a, ha, hmap⟩ := Option.map_eq_some_iff.mp hsome
  have he := Advance.result_of_map hmap
  obtain ⟨hfails, hlost, -⟩ := (lost_streams_are_reported s clock grids () schedule).2 a ha
  obtain ⟨hcrash, -⟩ := hlost _ 1 he rfl
  obtain ⟨e, n, he', hn, hclock, hstepper⟩ := hfails ⟨1, hcrash⟩
  obtain rfl := Except.error.inj (he'.symm.trans he)
  obtain rfl := Option.some.inj hn
  exact ⟨a, ha, he, hcrash, hclock, hstepper⟩

end Stepper

end MethodOfLines
