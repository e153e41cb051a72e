import MethodOfLines.Proofs.Between
import MethodOfLines.Proofs.Lasting

/-!
# Proofs/Containment — a failure stays on its stream, until the next fence

Between two fences a worker carries out what it is sent until something fails, and drops what is
behind it (`Worker.Fares`).  The fence answers with the first failure of the lowest stream that has
one, whatever the order of the grids, and every stream goes on with the parameters it has
(`Machine.fence_reports_lowest_failure`).

Where no collaborator crashes one thing is left that takes a worker away: a launch for more elements
than fit a word, on a machine that stops at such a product.
-/

namespace MethodOfLines

variable {σ α : Type} [Scalar α]

/-! ## A worker and its first failure -/

/-- **How a worker fares with what it is sent**: the error it is heard with, the worker that is left
and the operations carried out.

* `through` — nothing fails, and everything is carried out.
* `upTo` — every turn up to some operation is done, that operation fails, and the worker is left as
  the failure leaves it, whatever is behind it.
* `stopped` — the same, with a launch of too large a size that the machine stops at; the stream is
  reported as lost.
* `gone` — the worker was lost before, and nothing is carried out. -/
inductive Worker.Fares (ops : Operators σ α) (w : Worker α) :
    List (Nat × Op α) → Option StepError → Worker α → List (Nat × Op α) → Prop where
  | through (turns : List (Turn σ α)) (done : (w.after ops turns).status = .done) :
      Fares ops w (turns.map Turn.work) none (w.after ops turns) (turns.map Turn.work)
  | upTo (good : List (Turn σ α)) (x : Turn σ α) (skipped : List (Nat × Op α)) {e : StepError}
      (done : (w.after ops good).status = .done)
      (failed : ((w.after ops good).turn ops x).status = .failed e) :
      Fares ops w (good.map Turn.work ++ x.work :: skipped) (some e)
        ((w.after ops good).turn ops x) ((good ++ [x]).map Turn.work)
  | stopped (good : List (Turn σ α)) (x : Turn σ α) (skipped : List (Nat × Op α)) {g : Grid α}
      {e : DispatchError} (done : (w.after ops good).status = .done)
      (grid : (w.after ops good).grid? x.work.1 = some g)
      (oversized : x.work.2.Oversized ops (w.after ops good).params g)
      (lost : ((w.after ops good).turn ops x).status = .crashed)
      (fault : e.fault = .streamLost w.stream) :
      Fares ops w (good.map Turn.work ++ x.work :: skipped) (some (.dispatch e))
        ((w.after ops good).turn ops x) ((good ++ [x]).map Turn.work)
  | gone (sent : List (Nat × Op α)) {e : DispatchError} (lost : w.status = .crashed)
      (fault : e.fault = .streamLost w.stream) :
      Fares ops w sent (some (.dispatch e)) w []

namespace Worker

variable {ops : Operators σ α} {w left : Worker α} {sent carried : List (Nat × Op α)}
  {error : Option StepError}

/-- A turn that is done comes before what the worker fares with. -/
theorem Fares.cons (x : Turn σ α) (hx : (w.turn ops x).status = .done)
    (h : (w.turn ops x).Fares ops sent error left carried) :
    w.Fares ops (x.work :: sent) error left (x.work :: carried) := by
  have hstream : (w.turn ops x).stream = w.stream := stream_perform ..
  cases h with
  | through turns hdone => exact .through (x :: turns) hdone
  | upTo good y skipped hdone hfailed => exact .upTo (x :: good) y skipped hdone hfailed
  | stopped good y skipped hdone hgrid hover hlost hfault =>
    exact .stopped (x :: good) y skipped hdone hgrid hover hlost (hstream ▸ hfault)
  | gone _ hlost _ => cases hx.symm.trans hlost

omit [Scalar α] in
/-- **A worker that holds the grids of its calls**, on which no collaborator crashes. -/
def Equipped (ops : Operators σ α) (sent : List (Nat × Op α)) (w : Worker α) : Prop :=
  ∀ y ∈ sent, ∃ d call g, y.2.IsCall d call ∧ w.grid? y.1 = some g ∧ ops.NeverCrashOn g

theorem Equipped.turn {y : Nat × Op α} (h : w.Equipped ops (y :: sent)) (x : Turn σ α) :
    (w.turn ops x).Equipped ops sent := by
  intro z hz
  obtain ⟨d, call, g, hop, hg, hc⟩ := h z (List.mem_cons_of_mem _ hz)
  rcases grid?_turn ops hg x with hg' | hg'
  · exact ⟨d, call, g, hop, hg', hc⟩
  · exact ⟨d, call, _, hop, hg', hc.refills (Op.refills_execute ..)⟩

omit [Scalar α] in
/-- What a worker is heard with once it has had its turns: its error, or that it is lost. -/
structure Reports (w : Worker α) (error : Option StepError) : Prop where
  present : w.lost = false → error = w.failed
  lost : w.lost = true → ∃ e : DispatchError, error = some (.dispatch e)
    ∧ e.fault = .streamLost w.stream

theorem Fares.of_lost (hl : w.lost = true) (h : w.Reports error) : w.Fares ops sent error w [] := by
  obtain ⟨e, rfl, hfault⟩ := h.lost hl
  exact .gone sent (status_eq_crashed.mpr hl) hfault

/-- A turn that is not done ends what the worker fares with. -/
theorem Fares.of_turn {x : Turn σ α} (hs : w.status = .done) (hx : (w.turn ops x).status ≠ .done)
    (hequipped : w.Equipped ops (x.work :: sent)) (h : (w.turn ops x).Reports error) :
    w.Fares ops (x.work :: sent) error (w.turn ops x) [x.work] := by
  cases hl : (w.turn ops x).lost with
  | false =>
    rw [h.present hl]
    cases hf : (w.turn ops x).failed with
    | none => exact absurd (status_eq_done.mpr ⟨hl, hf⟩) hx
    | some e => exact .upTo [] x sent hs (status_eq_failed.mpr ⟨hl, hf⟩)
  | true =>
    obtain ⟨d, call, g, hop, hg, hc⟩ := hequipped x.work List.mem_cons_self
    obtain ⟨e, rfl, hfault⟩ := h.lost hl
    rw [show (w.turn ops x).stream = w.stream from stream_perform ..] at hfault
    exact .stopped [] x sent hs hg (oversized_of_lost hs hg hc hop hl)
      (status_eq_crashed.mpr hl) hfault

/-- **A worker fares in one of these ways** with a beginning of what it is sent, or with all of it
if it is not lost. -/
theorem fares (turns : List (Turn σ α)) : ∀ {w : Worker α} {sent : List (Nat × Op α)},
    w.failed = none → w.Equipped ops sent → turns.map Turn.work <+: sent →
      ((w.after ops turns).lost = false → turns.map Turn.work = sent) →
      (w.after ops turns).Reports error →
        w.Fares ops sent error (w.after ops turns) (w.carried ops turns) := by
  induction turns with
  | nil =>
    intro w sent hfailed _ _ hall hreports
    cases hl : w.lost with
    | true => exact .of_lost hl hreports
    | false =>
      obtain rfl := hall hl
      rw [hreports.present hl, after_nil, hfailed]
      exact .through [] (status_eq_done.mpr ⟨hl, hfailed⟩)
  | cons x turns ih =>
    intro w sent hfailed hequipped hbegun hall hreports
    obtain ⟨sent, rfl⟩ : ∃ sent', sent = x.work :: sent' := by
      obtain ⟨more, rfl⟩ := hbegun
      exact ⟨_, rfl⟩
    cases hl : w.lost with
    | true =>
      have hs : w.status ≠ .done := fun hs => by cases hl.symm.trans (status_eq_done.mp hs).1
      rw [after_of_status_ne ops hs] at hreports ⊢
      rw [carried_of_status_ne ops hs]
      exact .of_lost hl hreports
    | false =>
      have hs : w.status = .done := status_eq_done.mpr ⟨hl, hfailed⟩
      rw [Worker.carried, if_pos hs, after_cons] at *
      by_cases hx : (w.turn ops x).status = .done
      · exact (ih (status_eq_done.mp hx).2 (hequipped.turn x) (List.cons_prefix_cons.mp hbegun).2
          (fun hl' => (List.cons.inj (hall hl')).2) hreports).cons x hx
      · -- nothing behind the failure changes the worker
        rw [after_of_status_ne ops hx] at hreports ⊢
        rw [carried_of_status_ne ops hx]
        exact .of_turn hs hx hequipped hreports

end Worker

/-! ## The lowest stream -/

namespace Machine

variable {ops : Operators σ α} {s : Span α} {size : Nat} {grids : List (Grid α)}
  {requests : List (Request α)} {m m' : Machine σ α}

omit [Scalar α] in
/-- The error a lane has been heard with at a fence. -/
def errorOf (m : Machine σ α) (stage : Stage α) (t : StreamIndex) : Option StepError :=
  ((m.lanes.find? (·.stream.index = t)).bind (·.answer? stage)).join

omit [Scalar α] in
theorem errorOf_of_mem (hm : m.Sound) (stage : Stage α) {lane : Lane α} (hmem : lane ∈ m.lanes) :
    m.errorOf stage lane.stream.index = (lane.answer? stage).join := by
  rw [errorOf, lane?_of_mem hm hmem]
  rfl

omit [Scalar α] in
theorem Routed.sorted (hm : m.Routed size grids requests) :
    (m.lanes.map (·.stream.index)).Pairwise (· < ·) := by
  rw [hm.streams]
  exact Pool.indices_spawn size grids m.memory ▸ Pool.indices_spawn_sorted size grids m.memory

omit [Scalar α] in
/-- **The first error of the lanes is that of the lowest stream with one.** -/
theorem Routed.findSome?_answer (hm : m.Routed size grids requests) (stage : Stage α)
    {e : StepError} :
    m.lanes.findSome? (fun lane => (lane.answer? stage).join) = some e
      ↔ ∃ t ∈ m.lanes.map (·.stream.index), m.errorOf stage t = some e
        ∧ ∀ u ∈ m.lanes.map (·.stream.index), u < t → m.errorOf stage u = none := by
  rw [List.findSome?_eq_some_iff_lowest hm.sorted]
  simp only [List.mem_map, exists_exists_and_eq_and, forall_exists_index, and_imp,
    forall_apply_eq_imp_iff₂]
  refine exists_congr fun lane => and_congr_right fun hmem => ?_
  rw [errorOf_of_mem hm.sound stage hmem]
  refine and_congr_right fun _ => forall₂_congr fun other hother => ?_
  rw [errorOf_of_mem hm.sound stage hother]

/-! ## A span that is closed -/

/-- **The answer of the fence**: no error if no stream has one, and else that of the lowest stream
with one. -/
theorem Closed.exists_answer (h : m.Closed ops s) (hm : m.Routed size grids requests) :
    ∃ accepted answer, m.results = s.results ++ accepted ++ [answer]
      ∧ List.Forall₂ m.Accepts s.calls accepted
      ∧ (answer = .ok () ↔ ∀ t ∈ m.lanes.map (·.stream.index), m.errorOf s.stage t = none)
      ∧ ∀ e, answer = .error e
        ↔ ∃ t ∈ m.lanes.map (·.stream.index), m.errorOf s.stage t = some e
          ∧ ∀ u ∈ m.lanes.map (·.stream.index), u < t → m.errorOf s.stage u = none := by
  obtain ⟨accepted, haccepts, hresults⟩ := h.results
  refine ⟨accepted, _, hresults, haccepts, ?_, fun e =>
    StepError.result_eq_error.trans (hm.findSome?_answer s.stage)⟩
  rw [StepError.result_eq_ok, List.findSome?_eq_none_iff, List.forall_mem_map]
  exact forall₂_congr fun lane hmem => by rw [errorOf_of_mem hm.sound s.stage hmem]

omit [Scalar α] in
/-- Two machines over the same grids have the same streams. -/
theorem Routed.exists_same (hm : m.Routed size grids requests)
    (hm' : m'.Routed size grids requests) {lane : Lane α} (hmem : lane ∈ m.lanes) :
    ∃ lane' ∈ m'.lanes, lane'.stream.index = lane.stream.index := by
  have hsame : lane.stream.index ∈ m'.lanes.map (·.stream.index) := by
    rw [hm'.streams, ← hm.streams]
    exact List.mem_map_of_mem hmem
  exact List.mem_map.mp hsame

omit [Scalar α] in
/-- A worker holds the grids of the calls on its stream. -/
theorem Routed.equipped (hm : m.Routed size grids requests)
    (hc : ∀ g ∈ grids, ops.NeverCrashOn g) (hcalls : Request.Calls size grids requests)
    {calls : List (Request α)} (hsub : calls ⊆ requests) {lane : Lane α} (hmem : lane ∈ m.lanes) :
    lane.stream.worker.Equipped ops (Request.workFor lane.stream.index calls) := by
  intro y hy
  obtain ⟨b, call, hsubmit, ht, hslot⟩ := Request.mem_workFor.mp hy
  obtain ⟨e, he, rfl, hop⟩ := hcalls b call y.2 (hsub hsubmit)
  obtain ⟨g, hg, hrefills⟩ := hm.owns lane hmem e he ht
  exact ⟨_, call, g, hop, hslot ▸ hg, (hc e.2 (Pool.mem_of_mem_slots he)).refills hrefills⟩

end Machine

/-- **A lane that has been heard tells of its turns**: all it was sent, or a beginning if its worker
is lost. -/
theorem Lane.Heard.reports {ops : Operators σ α} {w : Worker α}
    {sent : List (Nat × Op α)} {turns : List (Turn σ α)} {lane : Lane α}
    (h : lane.Heard ops w sent turns) (hfailed : lane.stream.worker.failed = none)
    (stage : Stage α) :
    turns.map Turn.work <+: sent
      ∧ ((w.after ops turns).lost = false → turns.map Turn.work = sent)
      ∧ (w.after ops turns).Reports (lane.answer? stage).join
      ∧ lane.stream.worker = (w.after ops turns).cleared := by
  cases h with
  | answered h =>
    refine ⟨h.sent ▸ List.prefix_rfl, fun _ => h.sent, ⟨fun _ => ?_, fun hl => ?_⟩, h.worker⟩
    · rw [answer?, h.reply]
      rfl
    · cases hl.symm.trans h.present
  | gone hsince hreply hl =>
    rw [← hsince.worker]
    refine ⟨(List.prefix_append _ _).trans hsince.begun, fun hl' => (by cases hl.symm.trans hl'),
      ⟨fun hl' => (by cases hl.symm.trans hl'), fun _ => ?_⟩, ?_⟩
    · have hanswer : (lane.answer? stage).join = lane.stream.answer stage := by
        simp [answer?, hreply, hl]
      rw [hanswer, Stream.answer, if_pos hl]
      exact ⟨_, rfl, rfl⟩
    · exact (Worker.cleared_of_failed hfailed).symm

namespace Machine

variable {ops : Operators σ α} {size : Nat} {grids : List (Grid α)} {requests : List (Request α)}
  {m m' : Machine σ α}

/-- **Every worker has fared with what its stream was sent**, and its error has been taken. -/
theorem Closed.exists_fares {home : Nat → StreamIndex} {calls rest : List (Request α)}
    {free : ∀ stage, .fence stage ∉ calls} {stage : Stage α}
    (h : m'.Closed ops (m.spanTo home free stage rest)) (hm : m.Routed size grids requests)
    (hm' : m'.Routed size grids requests) (hq : m.Quiet) {lane : Lane α} (hmem : lane ∈ m.lanes)
    (hequipped : lane.stream.worker.Equipped ops (Request.workFor lane.stream.index calls))
    {lane' : Lane α} (hmem' : lane' ∈ m'.lanes) (hi : lane'.stream.index = lane.stream.index) :
    ∃ left carried,
      lane.stream.worker.Fares ops (Request.workFor lane.stream.index calls)
          (m'.errorOf stage lane.stream.index) left carried
        ∧ m'.performedOn home lane.stream.index = m.performedOn home lane.stream.index ++ carried
        ∧ lane'.stream.worker = left.cleared := by
  obtain ⟨turns, hheard, hadds⟩ := h.lanes lane' hmem'
  have horigin : (m.spanTo home free stage rest).origin lane.stream.index = lane.stream.worker :=
    workerAt_of_mem hm.sound hmem
  rw [hi, horigin] at hheard
  rw [hi, Adds, horigin] at hadds
  obtain ⟨hbegun, hall, hreports, hworker⟩ := hheard.reports (h.quiet lane' hmem').2 stage
  rw [← errorOf_of_mem hm'.sound stage hmem', hi] at hreports
  exact ⟨_, _, Worker.fares turns (hq lane hmem).2 hequipped hbegun hall hreports, hadds, hworker⟩

/-- A call on a stream with nothing to do is carried out as soon as its worker moves. -/
theorem performed_of_call (ops : Operators σ α) (hm : m.Sound) (hw : m.waiting = none)
    {b : Binding α} {call : StageCall α} {op : Op α} {rest : List (Request α)}
    (hp : m.pending = .submit b call op :: rest) {lane : Lane α} (hmem : lane ∈ m.lanes)
    (hi : lane.stream.index = b.stream) (hq : lane.queue = [])
    (hs : lane.stream.worker.status = .done) :
    (m.run ops .goOn [.issuer, .worker b.stream]).performed = m.performed ++ [(b.slot, op)] := by
  have hissue : m.move? ops .goOn .issuer = some (m.posted .goOn b call op rest) := by
    simp only [move?, issuer?, hw, hp]
    rfl
  have hindex := index_note_send lane b.descriptor.id (.work b.slot op)
  have hup : (m.posted .goOn b call op rest).Upcoming
      ((lane.note b.descriptor.id).send (.work b.slot op)) b.slot op := by
    refine ⟨List.mem_map.mpr ⟨lane, hmem, if_pos hi⟩, ⟨[], ?_⟩, ?_⟩
    · have hl : (lane.note b.descriptor.id).stream.worker.lost = false :=
        (Worker.status_eq_done.mp hs).1
      rw [Lane.send, hl]
      exact congrArg (· ++ _) hq
    · rw [stream_send]
      exact hs
  obtain ⟨lane', hmove, -⟩ := worker?_of_upcoming ops (sound_posted hm hw b call op rest) hup
  rw [hindex, hi] at hmove
  rw [run_cons, hissue, Option.getD_some, run_cons, move?, hmove]
  rfl

/-- Two points with 2 ^ 63 components are more elements than fit a word, here of a grid whose
buffers are empty.  A machine that stops at the product loses the stream, and the fence says so;
one that goes on keeps it, and the launch fails because the buffers do not match. -/
example :
    let g : Grid Rat := { Grid.pair 0 .radiation 1 2 with
      functions := ⟨0, 2 ^ 63, Buffers.fill _ 0, by decide, by decide⟩ }
    let s : Stepper Unit Rat := .heunThird (.affine 1 2 3) .none
    let call := StageCall.ofStage s.last 0 1
    let calls : List (Request Rat) :=
      [.submit (Pool.bind 1 (0, g)) call (.sync g.descriptor),
        .submit (Pool.bind 1 (0, g)) call (.kernel s.last call .pair)]
    let m := fun overflow => (start 1 [g] () (calls ++ [.fence s.last])).run
      { s.operators with overflow } .goOn
      (.replicate 4 .issuer ++ .replicate 3 (.worker 0) ++ .replicate 2 .issuer)
    let answer := fun fault => [.ok (), .ok (), .error (.dispatch ⟨call.kernel, 3, 0, fault⟩)]
    (m .stops).results = answer (.streamLost 0)
      ∧ (m .wraps).results = answer (.bufferMismatch 2 0) :=
  ⟨rfl, rfl⟩

end Machine

end MethodOfLines
