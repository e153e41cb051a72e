import MethodOfLines.Proofs.Params

/-!
# Proofs/Lasting — where no collaborator crashes, only a launch can lose its worker

The calls of a pool name buffers that an operation can have, so beside a collaborator that crashes
only a launch can take its worker away: one under parameters whose number of points, times the
number of fields, does not fit a word, on a machine that stops there (`Worker.oversized_of_lost`).

Parameters are those of a grid of the list (`Worker.Installed`).  So no worker is lost, under any
schedule, if the machine goes on with such a product, or if the sizes fit for any two grids that go
by the same number (`Grid.Sized`, `Machine.not_lost_run`).
-/

namespace MethodOfLines

variable {σ α : Type}

/-- **Calls of a pool over a list of grids**: every operation is one that can be asked for, on the
grid of its place. -/
def Request.Calls (size : Nat) (grids : List (Grid α)) (requests : List (Request α)) : Prop :=
  ∀ b call op, .submit b call op ∈ requests →
    ∃ e ∈ Pool.slots grids, b = Pool.bind size e ∧ op.IsCall e.2.descriptor call

theorem Request.Calls.bound {size : Nat} {grids : List (Grid α)} {requests : List (Request α)}
    (h : Calls size grids requests) : Bound size grids requests := fun b call op hmem => by
  obtain ⟨e, he, hb, -⟩ := h b call op hmem
  exact ⟨e, he, hb⟩

/-- What stands in a queue is a call on a grid of its stream. -/
theorem Machine.Routed.exists_call {size : Nat} {grids : List (Grid α)}
    {requests : List (Request α)} {m : Machine σ α} (h : m.Routed size grids requests)
    (hcalls : Request.Calls size grids requests) {lane : Lane α} (hmem : lane ∈ m.lanes)
    {x : Nat × Op α} (hx : x ∈ lane.work) :
    ∃ e ∈ Pool.slots grids, ∃ call, x.2.IsCall e.2.descriptor call
      ∧ ∃ g, lane.stream.worker.grid? x.1 = some g ∧ e.2.Refills g := by
  obtain ⟨b, call, hsubmit, ht, hslot⟩ := Request.mem_workFor.mp (h.queued lane hmem x hx)
  obtain ⟨e, he, rfl, hop⟩ := hcalls b call x.2 hsubmit
  exact ⟨e, he, call, hop, hslot ▸ h.owns lane hmem e he ht⟩

/-! ## One turn -/

section Turn

variable [Scalar α] {ops : Operators σ α} {grids : List (Grid α)} {w : Worker α} {x : Turn σ α}

/-- **A call loses its worker only at a product the machine stops at**, if no collaborator crashes
on its grid. -/
theorem Worker.oversized_of_lost (hs : w.status = .done) {g : Grid α}
    (hg : w.grid? x.work.1 = some g) (hc : ops.NeverCrashOn g) {d : Descriptor α}
    {call : StageCall α} (hop : x.work.2.IsCall d call) (hl : (w.turn ops x).lost = true) :
    x.work.2.Oversized ops w.params g := by
  by_contra hsize
  rw [turn] at hl
  by_cases hwork : x.work.2.IsWork
  · rw [perform_work ops hs hg hwork] at hl
    have hcrash := (status_settle hs ..).symm.trans (status_eq_crashed.mpr hl)
    rcases hop.ordinary hc w.stream hsize x.memory with hv | ⟨_, hv, -⟩ <;>
      cases hv.symm.trans hcrash
  · obtain ⟨p, hp⟩ : ∃ p, x.work.2 = .syncParams p := by simpa [Op.IsWork] using hwork
    rw [hp, perform_sync ops hs] at hl
    cases hl.symm.trans (status_eq_done.mp hs).1

omit [Scalar α] in
/-- **Grids of sizes that fit a word**, also where two of them go by the same number. -/
def Grid.Sized (grids : List (Grid α)) : Prop :=
  ∀ g ∈ grids, ∀ g' ∈ grids, g.id = g'.id →
    g.descriptor.points * g'.functions.fields < 2 ^ 64

omit [Scalar α] in
/-- **A worker whose parameters, if it has any, are those of a grid of the list.** -/
def Worker.Installed (grids : List (Grid α)) (w : Worker α) : Prop :=
  ∀ p, w.params = some p → ∃ g ∈ grids, p = .ofDescriptor g.descriptor

/-- **A call installs no parameters but those of its grid.** -/
theorem Worker.Installed.turn (h : w.Installed grids) {e : Nat × Grid α}
    (he : e ∈ Pool.slots grids) {call : StageCall α}
    (hop : x.work.2.IsCall e.2.descriptor call) : (w.turn ops x).Installed grids := by
  intro p hp
  by_cases hs : w.status = .done
  · rw [Worker.turn, params_perform ops hs] at hp
    generalize x.work.2 = op at hop hp
    cases hop with
    | sync => exact ⟨e.2, Pool.mem_of_mem_slots he, (Option.some.inj hp).symm⟩
    | _ => exact h p hp
  · rw [turn_of_status_ne ops hs] at hp
    exact h p hp

omit [Scalar α] in
/-- The machine stops at no launch if it goes on with every product, or the sizes fit. -/
theorem Worker.Installed.not_oversized (h : w.Installed grids)
    (hsize : ops.overflow = .wraps ∨ Grid.Sized grids) {g g' : Grid α} (hg : g ∈ grids)
    (hrefills : g.Refills g') (op : Op α) : ¬ op.Oversized ops w.params g' := by
  rintro ⟨hstops, -, p, hp, hid, hlimit⟩
  rcases hsize with hwraps | hsized
  · cases hstops.symm.trans hwraps
  · obtain ⟨f, hf, rfl⟩ := h p hp
    obtain ⟨_, rfl⟩ := hrefills
    exact absurd hlimit (Nat.not_le.mpr (hsized f hf g hg hid))

end Turn

/-! ## Along a schedule -/

namespace Machine

variable [Scalar α] {ops : Operators σ α} {d : Discipline} {size : Nat} {grids : List (Grid α)}
  {requests : List (Request α)} {m m' : Machine σ α}

omit [Scalar α] in
/-- A machine with all its workers, each with the parameters of a grid of the list. -/
structure Lasting (size : Nat) (grids : List (Grid α)) (requests : List (Request α))
    (m : Machine σ α) : Prop where
  routed : m.Routed size grids requests
  installed : ∀ lane ∈ m.lanes, lane.stream.worker.Installed grids
  present : ∀ lane ∈ m.lanes, lane.stream.worker.lost = false

theorem Lasting.of_move? (h : m.Lasting size grids requests)
    (hc : ∀ g ∈ grids, ops.NeverCrashOn g) (hcalls : Request.Calls size grids requests)
    (hsize : ops.overflow = .wraps ∨ Grid.Sized grids) {actor : Actor}
    (hmove : m.move? ops d actor = some m') : m'.Lasting size grids requests := by
  have hrouted := h.routed.of_move? hmove
  cases actor with
  | issuer =>
    exact ⟨hrouted, forall_worker_of_issuer? hmove h.installed,
      forall_worker_of_issuer? hmove (P := fun w => w.lost = false) h.present⟩
  | worker u =>
    have hcall : ∀ lane ∈ m.lanes, ∀ (x : Nat × Op α) rest, lane.queue = .work x.1 x.2 :: rest →
        ∃ e ∈ Pool.slots grids, ∃ call, x.2.IsCall e.2.descriptor call
          ∧ ∃ g, lane.stream.worker.grid? x.1 = some g ∧ e.2.Refills g := by
      intro lane hmem x rest hq
      refine h.routed.exists_call hcalls hmem ?_
      rw [Lane.work, hq]
      exact List.mem_cons_self
    refine ⟨hrouted, ?_, ?_⟩
    · refine forall_worker_of_worker? hmove (fun _ hw => hw) (fun lane hmem x rest hq hw => ?_)
        h.installed
      obtain ⟨e, he, call, hop, -⟩ := hcall lane hmem x rest hq
      exact hw.turn he hop
    · refine forall_worker_of_worker? hmove (P := fun w => w.lost = false) (fun _ hw => hw)
        (fun lane hmem x rest hq hw => ?_) h.present
      obtain ⟨e, he, call, hop, g, hg, hrefills⟩ := hcall lane hmem x rest hq
      have hin := Pool.mem_of_mem_slots he
      by_cases hs : lane.stream.worker.status = .done
      · refine Bool.eq_false_iff.mpr fun hl => (h.installed lane hmem).not_oversized hsize hin
          hrefills x.2 ?_
        exact Worker.oversized_of_lost (x := ⟨x, m.memory⟩) hs hg ((hc e.2 hin).refills hrefills)
          hop hl
      · rwa [Worker.turn_of_status_ne ops hs]

/-- **Under every schedule every worker lasts**, if no collaborator crashes, and the machine goes on
with every product or the sizes fit. -/
theorem not_lost_run (hc : ∀ g ∈ grids, ops.NeverCrashOn g)
    (hcalls : Request.Calls size grids requests)
    (hsize : ops.overflow = .wraps ∨ Grid.Sized grids) (d : Discipline) (memory : σ)
    (schedule : Schedule) (t : StreamIndex) :
    ¬ ((start size grids memory requests).run ops d schedule).Lost t := by
  have hstart : (start size grids memory requests).Lasting size grids requests := by
    refine ⟨routed_start size grids memory requests, fun lane hmem => ?_, fun lane hmem => ?_⟩
    · rw [(lane_of_mem_start hmem).1]
      intro p hp
      cases hp
    · rw [(lane_of_mem_start hmem).1]
      rfl
  have hrun := run_invariant (fun h hmove => h.of_move? hc hcalls hsize hmove) hstart schedule
    (d := d)
  rintro ⟨lane, hmem, -, hl⟩
  cases hl.symm.trans (hrun.present lane hmem)

end Machine

end MethodOfLines
