import MethodOfLines.Proofs.Routed
import MethodOfLines.Proofs.Step

/-!
# Proofs/Params — the parameters a kernel runs under

A stream has one slot for parameters.  What is in it is what the last operation that was carried out
on the stream and installs parameters put there (`Machine.synced_run`): fences and failures
leave it alone, and operations that are dropped do not count.

A kernel runs if these are the parameters of its own grid, cover as much as the launch, and so do
the buffers (`Params.Admits`); in all other cases the launch is refused before anything is written.
-/

namespace MethodOfLines

variable {σ α : Type}

/-! ## A launch under given parameters -/

/-- **Parameters under which a kernel may run** on a grid: the grid's own, for as many elements as
the launch covers and the three buffers hold. -/
structure Params.Admits (p : Params α) (g : Grid α) (stage : Stage α) (work : Launch) : Prop where
  grid : p.grid = g.id
  points : p.points * g.functions.fields = work.total
  buffers : ∀ role ∈ [Role.state, stage.rhsOutput, .total],
    (g.functions.buffer role).toArray.size = work.total

theorem FieldSet.size_buffer (f : FieldSet α) (role : Role) :
    (f.buffer role).toArray.size = f.points * f.fields := (f.buffer role).size_toArray

theorem Params.Admits.total_eq {p : Params α} {g : Grid α} {stage : Stage α} {work : Launch}
    (h : p.Admits g stage work) : work.total = g.functions.points * g.functions.fields := by
  rw [← h.buffers .state List.mem_cons_self, FieldSet.size_buffer]

section Launch

variable [Scalar α] {overflow : Overflow} {p : Params α} {g : Grid α} {stage : Stage α}
  {work : Launch}

/-- The grid after the kernel of a stage. -/
def Grid.updated (g : Grid α) (stage : Stage α) (dt : α) : Grid α :=
  g.setBuffers (g.functions.buffers.mapCells (stage.kernel.scale dt).apply stage.rhsOutput)

theorem Op.executeLaunch_of_admits (h : p.Admits g stage work) (call : StageCall α) :
    executeLaunch overflow (some p) call stage.kernel stage.rhsOutput work g
      = (.done, g.updated stage call.dt) := by
  have hcovered : Word.mul? p.points g.functions.fields = some work.total :=
    Word.mul?_eq_some.mpr ⟨h.points, h.total_eq ▸ g.functions.size_lt⟩
  rw [executeLaunch_own h.grid (Word.product?_of_mul? overflow hcovered),
    if_neg fun hne => hne rfl, if_pos h.total_eq]
  rfl

/-- Parameters of another grid, or none. -/
theorem Op.executeLaunch_of_stale {params : Option (Params α)}
    (h : params.map (·.grid) ≠ some g.id) (call : StageCall α) :
    executeLaunch overflow params call stage.kernel stage.rhsOutput work g
      = (.failed (.dispatch ⟨call.kernel, call.number, g.id,
          .staleParams g.id (params.map (·.grid))⟩), g) := by
  have hnone : params.filter (·.grid = g.id) = none := by
    cases params with
    | none => rfl
    | some p => simpa [Option.filter] using h
  simp only [executeLaunch, hnone]

/-- The grid's own parameters, for another number of elements than the launch or the buffers. -/
theorem Op.executeLaunch_of_mismatch (hid : p.grid = g.id)
    (hfit : p.points * g.functions.fields < 2 ^ 64) (h : ¬ p.Admits g stage work)
    (call : StageCall α) :
    ∃ expected actual,
      executeLaunch overflow (some p) call stage.kernel stage.rhsOutput work g
      = (.failed (.dispatch ⟨call.kernel, call.number, g.id,
          .bufferMismatch expected actual⟩), g) := by
  rw [executeLaunch_own hid (Word.product?_of_mul? overflow (Word.mul?_eq_some.mpr ⟨rfl, hfit⟩))]
  split
  · exact ⟨_, _, rfl⟩
  · next hpoints =>
    have hpoints : p.points * g.functions.fields = work.total := (not_not.mp hpoints).symm
    rw [if_neg fun htotal => h ⟨hid, hpoints, fun role _ => ?_⟩]
    · exact ⟨_, _, rfl⟩
    · rw [FieldSet.size_buffer, htotal]

/-- **A launch runs exactly under parameters that admit it**; otherwise it fails, and writes
nothing. -/
theorem Op.executeLaunch_runs_or_fails (overflow : Overflow) (params : Option (Params α))
    (g : Grid α) (stage : Stage α) (work : Launch) (call : StageCall α)
    (hfit : ∀ p, params = some p → p.points * g.functions.fields < 2 ^ 64) :
    ((∃ p, params = some p ∧ p.Admits g stage work)
        ∧ executeLaunch overflow params call stage.kernel stage.rhsOutput work g
          = (.done, g.updated stage call.dt))
      ∨ (¬ ∃ p, params = some p ∧ p.Admits g stage work) ∧ ∃ fault,
        executeLaunch overflow params call stage.kernel stage.rhsOutput work g
            = (.failed (.dispatch ⟨call.kernel, call.number, g.id, fault⟩), g)
          ∧ (params.map (·.grid) ≠ some g.id →
            fault = .staleParams g.id (params.map (·.grid)))
          ∧ (params.map (·.grid) = some g.id →
            ∃ expected actual, fault = .bufferMismatch expected actual) := by
  by_cases hid : params.map (·.grid) = some g.id
  · obtain ⟨p, rfl, hid'⟩ := Option.map_eq_some_iff.mp hid
    by_cases hadmits : p.Admits g stage work
    · exact .inl ⟨⟨p, rfl, hadmits⟩, executeLaunch_of_admits hadmits call⟩
    · obtain ⟨expected, actual, hexec⟩ :=
        executeLaunch_of_mismatch hid' (hfit p rfl) hadmits call
      refine .inr ⟨?_, _, hexec, fun hne => absurd hid hne, fun _ => ⟨expected, actual, rfl⟩⟩
      rintro ⟨p', hp', h⟩
      exact hadmits (Option.some.inj hp' ▸ h)
  · refine .inr ⟨?_, _, executeLaunch_of_stale hid call, fun _ => rfl, fun h => absurd h hid⟩
    rintro ⟨p, rfl, h⟩
    exact hid (congrArg some h.grid)

end Launch

/-! ## The parameters last installed -/

/-- The parameters an operation installs. -/
def Op.installs? : Op α → Option (Params α)
  | .syncParams p => some p
  | .evaluateRhs .. | .applyRadiation .. | .launch .. | .applyBoundary .. => none

/-- **An operation that is carried out leaves in the slot what it installs**, or what was there. -/
theorem Worker.params_perform [Scalar α] (ops : Operators σ α) {w : Worker α}
    (hs : w.status = .done) (slot : Nat) (op : Op α) (memory : σ) :
    (w.perform ops slot op memory).1.params = op.installs?.or w.params := by
  cases op with
  | syncParams p =>
    rw [perform_sync ops hs]
    rfl
  | _ => exact params_turn ops w (x := ⟨(slot, _), memory⟩) fun _ h => by cases h

/-- **A move of a worker installs parameters only by an operation it carries out.** -/
theorem Lane.params_of_advance? [Scalar α] {ops : Operators σ α} {lane lane' : Lane α}
    {memory memory' : σ} {performed : Option (Nat × Op α)}
    (h : lane.advance? ops memory = some (lane', memory', performed)) :
    (performed = none ∧ lane'.stream.worker.params = lane.stream.worker.params)
      ∨ ∃ x ∈ lane.work, performed = some x
        ∧ lane'.stream.worker.params = x.2.installs?.or lane.stream.worker.params := by
  rcases performed_of_advance? h with ⟨_, -, hst, -, -, -, rfl⟩ |
    ⟨slot, op, rest, hq, hst, -, -, -, rfl⟩
  · exact .inl ⟨rfl, by rw [hst]; rfl⟩
  · rw [hst]
    by_cases hs : lane.stream.worker.status = .done
    · refine .inr ⟨(slot, op), ?_, if_pos hs, Worker.params_perform ops hs slot op memory⟩
      rw [work, hq]
      exact List.mem_cons_self
    · exact .inl ⟨if_neg hs, by rw [Worker.perform_of_status_ne ops hs]⟩

namespace Machine

/-- The operations carried out on a stream. -/
def performedOn (home : Nat → StreamIndex) (m : Machine σ α) (t : StreamIndex) :
    List (Nat × Op α) := m.performed.filter fun x => home x.1 = t

theorem performedOn_append {home : Nat → StreamIndex} {t : StreamIndex} {m m' : Machine σ α}
    {l : List (Nat × Op α)} (h : m'.performed = m.performed ++ l) (hl : ∀ x ∈ l, home x.1 = t) :
    m'.performedOn home t = m.performedOn home t ++ l := by
  have hall : l.filter (fun x => home x.1 = t) = l :=
    List.filter_eq_self.mpr fun x hx => by simpa using hl x hx
  rw [performedOn, h, List.filter_append, hall, performedOn]

theorem performedOn_append_of_ne {home : Nat → StreamIndex} {t : StreamIndex} {m m' : Machine σ α}
    {l : List (Nat × Op α)} (h : m'.performed = m.performed ++ l) (hl : ∀ x ∈ l, home x.1 ≠ t) :
    m'.performedOn home t = m.performedOn home t := by
  have hnone : l.filter (fun x => home x.1 = t) = [] :=
    List.filter_eq_nil_iff.mpr fun x hx => by simpa using hl x hx
  rw [performedOn, h, List.filter_append, hnone, List.append_nil, performedOn]

/-- **The parameters last installed on a stream**, by the operations that were carried out. -/
def synced? (home : Nat → StreamIndex) (m : Machine σ α) (t : StreamIndex) : Option (Params α) :=
  ((m.performedOn home t).filterMap (·.2.installs?)).getLast?

theorem synced?_congr {home : Nat → StreamIndex} {m m' : Machine σ α}
    (h : m'.performed = m.performed) (t : StreamIndex) : m'.synced? home t = m.synced? home t := by
  rw [synced?, performedOn, h, synced?, performedOn]

theorem synced?_concat {home : Nat → StreamIndex} {m m' : Machine σ α} {slot : Nat} {op : Op α}
    (h : m'.performed = m.performed ++ [(slot, op)]) (t : StreamIndex) :
    m'.synced? home t
      = if home slot = t then op.installs?.or (m.synced? home t) else m.synced? home t := by
  by_cases hhome : home slot = t
  · rw [if_pos hhome, synced?, performedOn_append h (by simpa using hhome), List.filterMap_append,
      List.getLast?_append]
    cases hop : op.installs? <;> simp [hop, synced?]
  · rw [if_neg hhome, synced?, performedOn_append_of_ne h (by simpa using hhome), synced?]

variable [Scalar α] {ops : Operators σ α} {d : Discipline} {size : Nat} {grids : List (Grid α)}
  {requests : List (Request α)} {m m' : Machine σ α}

omit [Scalar α] in
/-- What stands in a queue belongs to the stream of the queue. -/
theorem Routed.home_of_mem (h : m.Routed size grids requests)
    (hb : Request.Bound size grids requests) {lane : Lane α} (hmem : lane ∈ m.lanes)
    {x : Nat × Op α} (hx : x ∈ lane.work) : Pool.home size grids x.1 = lane.stream.index := by
  obtain ⟨b, call, hsubmit, ht, hslot⟩ := Request.mem_workFor.mp (h.queued lane hmem x hx)
  obtain ⟨e, he, rfl⟩ := hb b call x.2 hsubmit
  rw [← hslot, ← ht]
  exact Pool.home_of_mem he

/-- **The slot of every stream holds what was last installed on it.** -/
def Synced (home : Nat → StreamIndex) (m : Machine σ α) : Prop :=
  ∀ lane ∈ m.lanes, lane.stream.worker.params = m.synced? home lane.stream.index

theorem Synced.worker? (hs : m.Synced (Pool.home size grids)) (h : m.Routed size grids requests)
    (hb : Request.Bound size grids requests) {u : StreamIndex}
    (hmove : m.worker? ops u = some m') : m'.Synced (Pool.home size grids) := by
  obtain ⟨lane, lane', after, performed, hlane, hadv, rfl⟩ := worker?_cases hmove
  obtain ⟨hmem, rfl⟩ := mem_of_lane? hlane
  have hindex := Lane.index_of_advance? hadv
  rcases Lane.params_of_advance? hadv with ⟨rfl, hparams⟩ | ⟨x, hx, rfl, hparams⟩
  · refine forall_replace (fun _ _ _ => ?_) fun old hold _ => ?_
    · rw [synced?_congr (List.append_nil _), hparams, hindex, hs lane hmem]
    · rw [synced?_congr (List.append_nil _), hs old hold]
  · have hhome := h.home_of_mem hb hmem hx
    refine forall_replace (fun _ _ _ => ?_) fun old hold hne => ?_
    · rw [synced?_concat rfl, hhome, hindex, if_pos rfl, hparams, hs lane hmem]
    · rw [synced?_concat rfl, hhome, if_neg (Ne.symm hne), hs old hold]

theorem Synced.of_move? (hs : m.Synced (Pool.home size grids)) (h : m.Routed size grids requests)
    (hb : Request.Bound size grids requests) {actor : Actor}
    (hmove : m.move? ops d actor = some m') : m'.Synced (Pool.home size grids) := by
  cases actor with
  | worker u => exact hs.worker? h hb hmove
  | issuer =>
    have hperformed : m'.performed = m.performed := by
      rcases issuer?_cases hmove with ⟨_, _, _, _, -, -, rfl⟩ | ⟨_, _, -, -, rfl⟩ |
        ⟨_, _, _, -, -, rfl⟩ | ⟨_, _, -, -, -, rfl⟩ <;> rfl
    intro lane hmem
    rw [synced?_congr hperformed]
    exact forall_worker_of_issuer? hmove (P := fun w => w.params = m.synced? _ w.stream) hs lane
      hmem

/-- **Under every schedule the slots hold what was last installed**, whatever fails. -/
theorem synced_run (ops : Operators σ α) (d : Discipline) (memory : σ)
    (hb : Request.Bound size grids requests) (schedule : Schedule) :
    ((start size grids memory requests).run ops d schedule).Synced (Pool.home size grids) := by
  refine (run_invariant (I := fun m => m.Routed size grids requests
      ∧ m.Synced (Pool.home size grids))
    (fun ⟨h, hs⟩ hmove => ⟨h.of_move? hmove, hs.of_move? h hb hmove⟩)
    ⟨routed_start size grids memory requests, fun lane hmem => ?_⟩ schedule).2
  rw [(lane_of_mem_start hmem).1]
  rfl

/-! ## Launches under way -/

/-- **A launch is carried out on the grid of its slot**, under what is in the slot of its stream. -/
theorem Routed.exists_launch (ops : Operators σ α) (h : m.Routed size grids requests)
    (hb : Request.Bound size grids requests) {lane : Lane α} {slot : Nat} {stage : Stage α}
    {call : StageCall α} {work : Launch} (hup : m.Upcoming lane slot (.kernel stage call work)) :
    ∃ e ∈ Pool.slots grids, e.1 = slot ∧ ∃ g m', e.2.Refills g ∧ m.pool.grids[slot]? = some g
      ∧ m.worker? ops lane.stream.index = some m'
      ∧ m'.pool.statusOf lane.stream.index = (Op.executeLaunch ops.overflow
        lane.stream.worker.params call stage.kernel stage.rhsOutput work g).1
      ∧ m'.pool.grids = m.pool.grids.set slot (Op.executeLaunch ops.overflow
        lane.stream.worker.params call stage.kernel stage.rhsOutput work g).2 := by
  obtain ⟨e, he, rfl, ht, g, hg, hrefills⟩ := h.exists_grid? hb hup
  obtain ⟨lane', hmove, hst⟩ := worker?_of_upcoming ops h.sound hup
  have hwork : (Op.kernel stage call work).IsWork := fun _ hsync => by cases hsync
  rw [Worker.perform_work ops hup.status hg hwork] at hmove hst
  have hindex : lane'.stream.index = lane.stream.index := by
    rw [hst]
    exact Worker.stream_settle ..
  refine ⟨e, he, rfl, g, _, hrefills, ?_, hmove, ?_, ?_⟩
  · rw [h.getElem?_grids he, h.grid?_pool hup.mem ht, hg]
  · have hmem : lane' ∈ (m.setLane lane').lanes :=
      List.mem_map.mpr ⟨lane, hup.mem, if_pos hindex.symm⟩
    rw [← hindex, statusOf_of_mem_lanes (sound_of_worker? h.sound hmove) hmem, hst]
    exact Worker.status_settle hup.status ..
  · exact h.grids_setLane hup.mem he ht hg (by rw [hst]; rfl)

omit [Scalar α] in
/-- With one stream, which has nothing wrong, the operation in its queue is the next. -/
theorem exists_upcoming {t : StreamIndex} {slot : Nat} {op : Op α}
    (h : m.lanes.map (fun lane => (lane.stream.index, lane.queue, lane.stream.worker.status))
      = [(t, [.work slot op], .done)]) :
    ∃ lane, m.Upcoming lane slot op ∧ lane.stream.index = t := by
  obtain ⟨lane, hlanes, hlane⟩ := List.map_eq_singleton_iff.mp h
  simp only [Prod.mk.injEq] at hlane
  exact ⟨lane, ⟨hlanes ▸ List.mem_cons_self, ⟨[], hlane.2.1⟩, hlane.2.2⟩, hlane.1⟩

/-- **No kernel runs under the parameters of another grid.**  Under every schedule, the slot of a
stream holds what was last installed by an operation carried out on it.  A launch that is carried
out runs its kernel if and only if these parameters admit it.  Otherwise no grid changes and the
launch fails: its parameters are stale if they are those of another grid or there are none, and its
buffers do not match if they are its own.  The number of elements is assumed to fit a word. -/
theorem kernel_runs_iff_synced (ops : Operators σ α) (d : Discipline) (memory : σ)
    (hb : Request.Bound size grids requests) (schedule : Schedule) :
    let m := (start size grids memory requests).run ops d schedule
    let synced := m.synced? (Pool.home size grids)
    (∀ lane ∈ m.lanes, lane.stream.worker.params = synced lane.stream.index)
      ∧ ∀ lane slot stage call work, m.Upcoming lane slot (.kernel stage call work) →
        let t := lane.stream.index
        t = Pool.home size grids slot ∧ ∃ original g m', grids[slot]? = some original
          ∧ original.Refills g ∧ m.pool.grids[slot]? = some g ∧ m.worker? ops t = some m'
          ∧ ((∀ p, synced t = some p → p.points * g.functions.fields < 2 ^ 64) →
            (m'.pool.statusOf t = .done ↔ ∃ p, synced t = some p ∧ p.Admits g stage work)
              ∧ (m'.pool.statusOf t = .done →
                m'.pool.grids = m.pool.grids.set slot (g.updated stage call.dt))
              ∧ (m'.pool.statusOf t ≠ .done → m'.pool.grids = m.pool.grids ∧ ∃ fault,
                m'.pool.statusOf t
                    = .failed (.dispatch ⟨call.kernel, call.number, g.id, fault⟩)
                  ∧ ((synced t).map (·.grid) ≠ some g.id →
                    fault = .staleParams g.id ((synced t).map (·.grid)))
                  ∧ ((synced t).map (·.grid) = some g.id →
                    ∃ expected actual, fault = .bufferMismatch expected actual))) := by
  intro m synced
  have hrouted : m.Routed size grids requests :=
    routed_run ops d size grids memory requests schedule
  have hsynced : m.Synced (Pool.home size grids) := synced_run ops d memory hb schedule
  refine ⟨hsynced, fun lane slot stage call work hup => ?_⟩
  intro t
  obtain ⟨e, he, rfl, g, m', hrefills, hg, hmove, hstatus, hgrids⟩ :=
    hrouted.exists_launch ops hb hup
  refine ⟨(hrouted.home_of_mem hb hup.mem hup.mem_work).symm, e.2, g, m', Pool.mem_slots.mp he,
    hrefills, hg, hmove, fun hfit => ?_⟩
  rw [show lane.stream.worker.params = synced t from hsynced lane hup.mem] at hstatus hgrids
  rcases Op.executeLaunch_runs_or_fails ops.overflow (synced t) g stage work call hfit with
    ⟨hadmits, hexec⟩ | ⟨hnone, fault, hexec, hstale, hmismatch⟩
  · rw [hexec] at hstatus hgrids
    exact ⟨iff_of_true hstatus hadmits, fun _ => hgrids, fun hne => absurd hstatus hne⟩
  · rw [hexec] at hstatus hgrids
    have hne : m'.pool.statusOf t ≠ .done := fun hdone => by cases hstatus.symm.trans hdone
    refine ⟨iff_of_false hne hnone, fun hdone => absurd hdone hne, fun _ => ⟨?_, fault, hstatus,
      hstale, hmismatch⟩⟩
    obtain ⟨hlt, rfl⟩ := List.getElem?_eq_some_iff.mp hg
    rw [hgrids, List.set_getElem_self]

/-- Two grids that share a stream: only the parameters of the first are installed, so the launch on
the second fails and the one on the first, behind a fence, still runs. -/
theorem kernel_runs_iff_synced_heunThird :
    let s : Stepper Unit Rat := .heunThird (.affine 1 2 3) .none
    let ops := s.operators
    let stage := s.last
    let call := StageCall.ofStage stage 0 1
    let first := Grid.pair 1 .radiation 1 2
    let second := Grid.pair 3 .radiation 3 4
    let requests : List (Request Rat) :=
      [.submit (Pool.bind 2 (0, first)) call (.sync first.descriptor),
        .submit (Pool.bind 2 (1, second)) call (.kernel stage call .pair), .fence stage,
        .submit (Pool.bind 2 (0, first)) call (.kernel stage call .pair)]
    let installed : Schedule := [.issuer, .issuer, .worker 1]
    let fenced : Schedule := [.worker 1, .issuer, .issuer, .worker 1, .issuer, .issuer]
    let m := (start 2 [first, second] () requests).run ops .goOn installed
    let n := (start 2 [first, second] () requests).run ops .goOn (installed ++ fenced)
    (∃ m', m.worker? ops 1 = some m' ∧ m'.pool.grids = m.pool.grids
      ∧ m'.pool.statusOf 1
        = .failed (.dispatch ⟨call.kernel, 3, 3, .staleParams 3 (some 1)⟩))
    ∧ ∃ n' g, n.worker? ops 1 = some n' ∧ n'.pool.statusOf 1 = .done
      ∧ n'.pool.grids = n.pool.grids.set 0 (Grid.updated g stage 1) := by
  intro s ops stage call first second requests installed fenced m n
  have hb : Request.Bound 2 [first, second] requests := by
    intro b call' op h
    simp only [requests, List.mem_cons, Request.submit.injEq, List.not_mem_nil, or_false,
      reduceCtorEq, false_or] at h
    rcases h with ⟨rfl, -⟩ | ⟨rfl, -⟩ | ⟨rfl, -⟩
    · exact ⟨(0, first), Pool.mem_slots.mpr rfl, rfl⟩
    · exact ⟨(1, second), Pool.mem_slots.mpr rfl, rfl⟩
    · exact ⟨(0, first), Pool.mem_slots.mpr rfl, rfl⟩
  have hsynced (k : Machine Unit Rat) (hk : k ∈ [m, n]) :
      ∃ p, k.synced? (Pool.home 2 [first, second]) 1 = some p ∧ p.grid = 1 ∧ p.points = 2 := by
    have hall : ∀ k ∈ [m, n], (k.synced? (Pool.home 2 [first, second]) 1).map
        (fun p => (p.grid, p.points)) = some (1, 2) := by decide +kernel
    simpa [Option.map_eq_some_iff] using hall k hk
  have hfit (k : Machine Unit Rat) (hk : k ∈ [m, n]) (p : Params Rat)
      (hp : k.synced? (Pool.home 2 [first, second]) 1 = some p) : p.points * 1 < 2 ^ 64 := by
    obtain ⟨q, hq, -, hpoints⟩ := hsynced k hk
    rw [← Option.some.inj (hq.symm.trans hp), hpoints]
    decide
  constructor
  · obtain ⟨lane, hup, hi⟩ : ∃ lane, m.Upcoming lane 1 (.kernel stage call .pair)
        ∧ lane.stream.index = 1 := exists_upcoming (by
      simp only [m, requests, installed, first, second, call, stage, ops, s]
      rfl)
    obtain ⟨p, hp, hgrid, -⟩ := hsynced m List.mem_cons_self
    have hfound : (m.synced? (Pool.home 2 [first, second]) 1).map (·.grid) = some 1 := by
      rw [hp, Option.map_some, hgrid]
    obtain ⟨-, hall⟩ := kernel_runs_iff_synced ops .goOn () hb installed
    obtain ⟨-, original, g, m', horig, ⟨b, rfl⟩, -, hmove, hcases⟩ :=
      hall lane 1 stage call .pair hup
    obtain rfl : second = original := Option.some.inj horig
    rw [hi] at hmove hcases
    obtain ⟨hiff, -, hfail⟩ := hcases (hfit m List.mem_cons_self)
    have hne : m'.pool.statusOf 1 ≠ .done := fun hdone => by
      obtain ⟨q, hq, hadmits⟩ := hiff.mp hdone
      rw [← Option.some.inj (hp.symm.trans hq)] at hadmits
      exact absurd (hgrid.symm.trans hadmits.grid) (by decide : (1 : GridId) ≠ 3)
    obtain ⟨hgrids, fault, hstatus, hstale, -⟩ := hfail hne
    rw [hstale (hfound ▸ (by decide : some (1 : GridId) ≠ some 3)), hfound] at hstatus
    exact ⟨m', hmove, hgrids, hstatus⟩
  · obtain ⟨lane, hup, hi⟩ : ∃ lane, n.Upcoming lane 0 (.kernel stage call .pair)
        ∧ lane.stream.index = 1 := exists_upcoming (by
      simp only [n, requests, installed, fenced, first, second, call, stage, ops, s]
      rfl)
    have hn : n ∈ [m, n] := List.mem_cons_of_mem _ List.mem_cons_self
    obtain ⟨p, hp, hgrid, hpoints⟩ := hsynced n hn
    obtain ⟨-, hall⟩ := kernel_runs_iff_synced ops .goOn () hb (installed ++ fenced)
    obtain ⟨-, original, g, n', horig, ⟨b, rfl⟩, -, hmove, hcases⟩ :=
      hall lane 0 stage call .pair hup
    obtain rfl : first = original := Option.some.inj horig
    rw [hi] at hmove hcases
    obtain ⟨hiff, hrun, -⟩ := hcases (hfit n hn)
    have hdone : n'.pool.statusOf 1 = .done := by
      refine hiff.mpr ⟨p, hp, hgrid, by rw [hpoints]; rfl, fun role _ => ?_⟩
      exact FieldSet.size_buffer _ role
    exact ⟨n', _, hmove, hdone, hrun hdone⟩

end Machine

end MethodOfLines
