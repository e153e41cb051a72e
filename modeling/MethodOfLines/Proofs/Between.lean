import MethodOfLines.Proofs.Params

/-!
# Proofs/Between — from one fence to the next

The issuing side goes on after errors here, and workers may be lost.  At a fence every queue is
empty and no error stands (`Machine.quiet_run`), so what happens until the next one can be told from
there (`Span`): every worker takes its turns of what it is sent, and is asked once it has had them
all; one that is gone takes no more and is heard as such.  Such a machine is `Machine.Open` until
the next fence is answered, and then `Machine.Closed`.

* `Machine.Open.of_move?` — a move leaves the span open, or closes it.
* `Machine.Open.exists_reached` — as long as the next fence is outstanding it can be reached.
* `Machine.Open.closed_run` — when it has been answered, and nothing more has been asked, the span
  is closed.
-/

namespace MethodOfLines

variable {σ α : Type} [Scalar α]

/-! ## At a fence -/

omit [Scalar α] in
/-- **Requests up to a fence**, or none. -/
def Request.UpToFence (made : List (Request α)) : Prop :=
  made = [] ∨ ∃ l stage, made = l ++ [.fence stage]

omit [Scalar α] in
theorem Request.not_upToFence_submit (made : List (Request α)) (b : Binding α)
    (call : StageCall α) (op : Op α) : ¬ UpToFence (made ++ [.submit b call op]) := by
  rintro (h | ⟨l, stage, h⟩)
  · simp at h
  · cases (List.append_inj' h rfl).2

namespace Machine

variable {ops : Operators σ α} {requests : List (Request α)} {m m' : Machine σ α}

omit [Scalar α] in
/-- **A machine with nothing left to do**, and no error. -/
def Quiet (m : Machine σ α) : Prop :=
  ∀ lane ∈ m.lanes, lane.queue = [] ∧ lane.stream.worker.failed = none

omit [Scalar α] in
/-- **A machine that is quiet at every fence.** -/
def Paused (requests : List (Request α)) (m : Machine σ α) : Prop :=
  ∃ made, requests = made ++ m.outstanding
    ∧ (m.waiting = none → Request.UpToFence made → m.Quiet)

/-- Where nothing is left to do no worker moves. -/
theorem Quiet.worker?_eq_none (h : m.Quiet) (u : StreamIndex) : m.worker? ops u = none := by
  refine Option.eq_none_iff_forall_ne_some.mpr fun m' hmove => ?_
  obtain ⟨lane, _, _, _, hlane, hadv, -⟩ := worker?_cases hmove
  obtain ⟨-, _, _, hq, -⟩ := Lane.advance?_cases ops hadv
  cases (h lane (mem_of_lane? hlane).1).1.symm.trans hq

omit [Scalar α] in
/-- **Lanes that have all been asked and have answered are quiet.** -/
theorem quiet_of_collected? (hm : m.Sound) (hw : m.waiting ≠ none) (hu : m.unasked = [])
    {stage : Stage α} {answer : Except StepError Unit} (hc : m.collected? stage = some answer) :
    m.Quiet := by
  intro lane hmem
  obtain ⟨_, ha⟩ := answer?_of_collected? hc lane hmem
  exact Lane.quiet_of_answer? (hm.tidy lane hmem) (hm.asked hw lane hmem (by simp [hu])) ha

theorem Paused.of_move? (hm : m.Sound) (h : m.Paused requests) {actor : Actor}
    (hmove : m.move? ops .goOn actor = some m') : m'.Paused requests := by
  obtain ⟨made, hmade, hquiet⟩ := h
  cases actor with
  | worker u =>
    refine ⟨made, ?_, fun hw hup => ?_⟩
    · obtain ⟨_, _, _, _, -, -, rfl⟩ := worker?_cases hmove
      exact hmade
    · have hw' : m.waiting = none := by
        obtain ⟨_, _, _, _, -, -, rfl⟩ := worker?_cases hmove
        exact hw
      cases ((hquiet hw' hup).worker?_eq_none u).symm.trans hmove
  | issuer =>
    rcases issuer?_cases hmove with ⟨b, call, op, rest, hw, hp, rfl⟩ | ⟨stage, rest, hw, hp, rfl⟩ |
      ⟨stage, u, others, hw, -, rfl⟩ | ⟨stage, answer, hw, hu, hc, rfl⟩
    · refine ⟨made ++ [.submit b call op], ?_, fun _ hup =>
        absurd hup (Request.not_upToFence_submit made b call op)⟩
      rw [hmade, outstanding_of_free hw, hp, outstanding_of_free rfl, posted, pending_answered,
        List.append_assoc]
      rfl
    · refine ⟨made, ?_, fun hw' => by cases hw'⟩
      rw [hmade, outstanding_of_free hw, hp, outstanding_of_waiting rfl]
      rfl
    · refine ⟨made, hmade, fun hw' => ?_⟩
      cases hw.symm.trans hw'
    · have hw' : m.waiting ≠ none := by simp [hw]
      have hquiet' := quiet_of_collected? hm hw' hu hc
      refine ⟨made ++ [.fence stage], ?_, fun _ _ => hquiet'⟩
      rw [hmade, outstanding_of_waiting hw, outstanding_of_free rfl, pending_answered,
        List.append_assoc]
      rfl

/-- **Under every schedule the machine is quiet at a fence.** -/
theorem quiet_run (ops : Operators σ α) (size : Nat) (grids : List (Grid α)) (memory : σ)
    {made left : List (Request α)} (hup : Request.UpToFence made) (schedule : Schedule)
    (hw : ((start size grids memory (made ++ left)).run ops .goOn schedule).waiting = none)
    (hp : ((start size grids memory (made ++ left)).run ops .goOn schedule).pending = left) :
    ((start size grids memory (made ++ left)).run ops .goOn schedule).Quiet := by
  have hstart : (start size grids memory (made ++ left)).Paused (made ++ left) := by
    refine ⟨[], rfl, fun _ _ lane hmem => ?_⟩
    rw [(lane_of_mem_start hmem).1]
    exact ⟨(lane_of_mem_start hmem).2.1, rfl⟩
  obtain ⟨-, made', hmade, hquiet⟩ := run_invariant
    (I := fun m => m.Sound ∧ m.Paused (made ++ left))
    (fun ⟨hm, h⟩ hmove => ⟨sound_of_move? hm hmove, h.of_move? hm hmove⟩)
    ⟨sound_start size grids memory (made ++ left), hstart⟩ schedule
  rw [outstanding_of_free hw, hp] at hmade
  exact hquiet hw (List.append_cancel_right hmade ▸ hup)

end Machine

/-! ## One lane -/

/-- **A lane on its way to a fence**: the worker is where its turns have taken it, and what was sent
has had its turn or stands in the queue, unless the worker is gone. -/
structure Lane.Since (ops : Operators σ α) (w : Worker α) (sent : List (Nat × Op α))
    (turns : List (Turn σ α)) (lane : Lane α) : Prop where
  begun : turns.map Turn.work ++ lane.work <+: sent
  sent : lane.stream.worker.lost = false → turns.map Turn.work ++ lane.work = sent
  worker : lane.stream.worker = w.after ops turns

/-- **A lane that has answered a fence**: all that was sent has had its turn, and the error has been
taken. -/
structure Lane.Answered (ops : Operators σ α) (w : Worker α) (sent : List (Nat × Op α))
    (turns : List (Turn σ α)) (lane : Lane α) : Prop where
  sent : turns.map Turn.work = sent
  queue : lane.queue = []
  present : (w.after ops turns).lost = false
  worker : lane.stream.worker = (w.after ops turns).cleared
  reply : lane.reply = some (w.after ops turns).failed

/-- **Where a lane stands**, if the issuing side waits or not: it has answered only if it does. -/
inductive Lane.Stands (ops : Operators σ α) (w : Worker α) (sent : List (Nat × Op α))
    (waiting : Prop) (turns : List (Turn σ α)) (lane : Lane α) : Prop where
  | busy (since : lane.Since ops w sent turns) (reply : waiting → lane.reply = none)
  | answered (asked : waiting) (answered : lane.Answered ops w sent turns)

/-- **A lane that has been heard at a fence**: it has answered, or its worker is gone. -/
inductive Lane.Heard (ops : Operators σ α) (w : Worker α) (sent : List (Nat × Op α))
    (turns : List (Turn σ α)) (lane : Lane α) : Prop where
  | answered (answered : lane.Answered ops w sent turns)
  | gone (since : lane.Since ops w sent turns) (reply : lane.reply = none)
      (lost : lane.stream.worker.lost = true)

namespace Lane

variable {ops : Operators σ α} {w : Worker α} {sent : List (Nat × Op α)} {waiting : Prop}
  {turns : List (Turn σ α)} {lane lane' : Lane α}

theorem Stands.since (h : lane.Stands ops w sent waiting turns) (hw : ¬ waiting) :
    lane.Since ops w sent turns := by
  cases h with
  | busy hsince _ => exact hsince
  | answered hasked _ => exact absurd hasked hw

/-- Work sent to a lane is work to come, unless the worker is gone. -/
theorem Since.send_work (h : lane.Since ops w sent turns) (id : GridId) (slot : Nat) (op : Op α) :
    ((lane.note id).send (.work slot op)).Since ops w (sent ++ [(slot, op)]) turns := by
  cases hl : (lane.note id).stream.worker.lost with
  | true =>
    rw [send_of_lost hl]
    exact ⟨h.begun.trans (List.prefix_append _ _), fun hl' => (by cases hl.symm.trans hl'),
      h.worker⟩
  | false =>
    have hwork : turns.map Turn.work ++ ((lane.note id).send (.work slot op)).work
        = sent ++ [(slot, op)] := by
      rw [work_send hl, ← h.sent hl, List.append_assoc]
      rfl
    refine ⟨hwork ▸ List.prefix_rfl, fun _ => hwork, ?_⟩
    rw [Machine.stream_send]
    exact h.worker

/-- The question is no work. -/
theorem Since.send_fence (h : lane.Since ops w sent turns) :
    (lane.send .fence).Since ops w sent turns := by
  cases hl : lane.stream.worker.lost with
  | true => rwa [send_of_lost hl]
  | false =>
    have hwork : (lane.send .fence).work = lane.work := by
      rw [work_send hl]
      exact List.append_nil _
    refine ⟨hwork ▸ h.begun, fun _ => hwork ▸ h.sent hl, ?_⟩
    rw [Machine.stream_send]
    exact h.worker

/-- **The worker takes a turn.** -/
theorem Since.turn (h : lane.Since ops w sent turns) (hl : lane.stream.worker.lost = false)
    {slot : Nat} {op : Op α} {queue : List (Message α)} (hq : lane.queue = .work slot op :: queue)
    {memory : σ} (hst : lane'.stream = { lane.stream with
      worker := (lane.stream.worker.perform ops slot op memory).1 })
    (hq' : lane'.queue = if lane'.stream.worker.lost then [] else queue) :
    lane'.Since ops w sent (turns ++ [⟨(slot, op), memory⟩]) := by
  have hsplit := map_work_append hq turns memory
  have hbegun := h.begun
  rw [hsplit] at hbegun
  refine ⟨?_, fun hl' => ?_, ?_⟩
  · rw [work, hq']
    split
    · exact (List.append_nil _).symm ▸ (List.prefix_append _ _).trans hbegun
    · exact hbegun
  · rw [work, hq', hl', if_neg (by simp), ← hsplit, h.sent hl]
  · rw [hst, Worker.after_append, ← h.worker]
    rfl

/-- **The worker answers**, once it has had all its turns. -/
theorem Since.answer (h : lane.Since ops w sent turns) (hl : lane.stream.worker.lost = false)
    (hq : lane.queue = [.fence]) (hst : lane'.stream = lane.stream.cleared)
    (hq' : lane'.queue = []) (hr : lane'.reply = some lane.stream.worker.failed) :
    lane'.Answered ops w sent turns where
  sent := by
    rw [← h.sent hl, work, hq]
    exact (List.append_nil _).symm
  queue := hq'
  present := h.worker ▸ hl
  worker := by
    rw [hst, ← h.worker]
    rfl
  reply := by rw [hr, h.worker]

/-- **A move of the worker is a turn**, or its answer. -/
theorem Stands.advance (h : lane.Stands ops w sent waiting turns) {memory memory' : σ}
    {performed : Option (Nat × Op α)}
    (hadv : lane.advance? ops memory = some (lane', memory', performed))
    (hlast : ∀ queue, lane.queue = .fence :: queue → queue = [])
    (hworking : ¬ waiting → lane.Working) :
    ∃ turns', lane'.Stands ops w sent waiting turns'
      ∧ w.carried ops turns' = w.carried ops turns ++ performed.toList := by
  have hmoves := performed_of_advance? hadv
  have hl := (advance?_cases ops hadv).1
  cases h with
  | answered _ hanswered =>
    rw [hanswered.queue] at hmoves
    rcases hmoves with ⟨_, hq, -⟩ | ⟨_, _, _, hq, -⟩ <;> cases hq
  | busy hsince hreply =>
    rcases hmoves with ⟨queue, hq, hst, hq', hr, -, rfl⟩ |
      ⟨slot, op, queue, hq, hst, hr, hq', -, rfl⟩
    · obtain rfl := hlast queue hq
      have hasked : waiting := by_contra fun hn => hworking hn .fence (hq ▸ List.mem_cons_self)
      exact ⟨turns, .answered hasked (hsince.answer hl hq hst hq' hr), (List.append_nil _).symm⟩
    · refine ⟨_, .busy (hsince.turn hl hq hst hq') fun hw => hr.trans (hreply hw), ?_⟩
      rw [Worker.carried_append, ← hsince.worker, Worker.carried, Worker.carried, List.append_nil]
      split <;> rfl

/-- A lane with an answer to the question has been heard. -/
theorem Stands.heard (h : lane.Stands ops w sent waiting turns) (hw : waiting) {stage : Stage α}
    {answer : Option StepError} (ha : lane.answer? stage = some answer) :
    lane.Heard ops w sent turns := by
  cases h with
  | answered _ hanswered => exact .answered hanswered
  | busy hsince hreply =>
    rcases answer?_cases ha with hr | ⟨hl, -⟩
    · cases (hreply hw).symm.trans hr
    · exact .gone hsince (hreply hw) hl

end Lane

/-! ## All lanes -/

/-- **From one fence to the next**: the workers, the operations carried out and the answers given at
the first, the calls in between, and what comes after the second. -/
structure Span (α : Type) where
  origin : StreamIndex → Worker α
  home : Nat → StreamIndex
  performed : List (Nat × Op α)
  results : List (Except StepError Unit)
  calls : List (Request α)
  free : ∀ stage, .fence stage ∉ calls
  stage : Stage α
  rest : List (Request α)

namespace Machine

variable (ops : Operators σ α) (s : Span α)

omit [Scalar α] in
/-- **A call is accepted**, or its stream is gone and the answer says so. -/
def Accepts (m : Machine σ α) : Request α → Except StepError Unit → Prop
  | .submit b call _, answer => answer = .ok () ∨ m.Lost b.stream ∧ answer = .error
      (.dispatch ⟨call.kernel, call.number, b.descriptor.id, .streamLost b.stream⟩)
  | .fence _, _ => False

omit [Scalar α] in
/-- **The answers in a span to the calls issued.** -/
def Accepted (issued : List (Request α)) (m : Machine σ α) : Prop :=
  ∃ accepted, List.Forall₂ m.Accepts issued accepted ∧ m.results = s.results ++ accepted

/-- **Operations carried out in a span, on a stream.** -/
def Adds (t : StreamIndex) (turns : List (Turn σ α)) (m : Machine σ α) : Prop :=
  m.performedOn s.home t
    = s.performed.filter (fun x => s.home x.1 = t) ++ (s.origin t).carried ops turns

/-- **Every lane is on its way to the next fence**, with what has been issued. -/
def Amid (issued : List (Request α)) (m : Machine σ α) : Prop :=
  ∀ lane ∈ m.lanes, ∃ turns,
    lane.Stands ops (s.origin lane.stream.index) (Request.workFor lane.stream.index issued)
        (m.waiting ≠ none) turns
      ∧ m.Adds ops s lane.stream.index turns

/-- **Calls are being issued.** -/
structure Issuing (issued left : List (Request α)) (m : Machine σ α) : Prop where
  calls : s.calls = issued ++ left
  waiting : m.waiting = none
  pending : m.pending = left ++ .fence s.stage :: s.rest
  accepted : m.Accepted s issued
  amid : m.Amid ops s issued

/-- **The issuing side waits** for the answers to the fence. -/
structure Awaiting (m : Machine σ α) : Prop where
  waiting : m.waiting = some s.stage
  pending : m.pending = s.rest
  accepted : m.Accepted s s.calls
  amid : m.Amid ops s s.calls

/-- **A span that is open.** -/
inductive Open (m : Machine σ α) : Prop where
  | issuing {issued left : List (Request α)} (issuing : m.Issuing ops s issued left)
  | awaiting (awaiting : m.Awaiting ops s)

/-- **A span that is closed**: every lane has been heard, and the fence has been answered by the
first error of the lanes. -/
structure Closed (m : Machine σ α) : Prop where
  waiting : m.waiting = none
  pending : m.pending = s.rest
  quiet : m.Quiet
  lanes : ∀ lane ∈ m.lanes, ∃ turns,
    lane.Heard ops (s.origin lane.stream.index) (Request.workFor lane.stream.index s.calls) turns
      ∧ m.Adds ops s lane.stream.index turns
  results : ∃ accepted, List.Forall₂ m.Accepts s.calls accepted
    ∧ m.results = s.results ++ accepted
      ++ [StepError.result (m.lanes.findSome? fun lane => (lane.answer? s.stage).join)]

variable {ops s} {size : Nat} {grids : List (Grid α)} {requests issued : List (Request α)}
  {m m' : Machine σ α}

/-! ### The beginning -/

omit [Scalar α] in
/-- The worker of a stream. -/
def workerAt (m : Machine σ α) (t : StreamIndex) : Worker α :=
  ((m.lanes.find? (·.stream.index = t)).map (·.stream.worker)).getD { stream := t, grids := [] }

omit [Scalar α] in
theorem workerAt_of_mem (hm : m.Sound) {lane : Lane α} (hmem : lane ∈ m.lanes) :
    m.workerAt lane.stream.index = lane.stream.worker := by
  rw [workerAt, lane?_of_mem hm hmem]
  rfl

omit [Scalar α] in
/-- The span that begins here. -/
def spanTo (m : Machine σ α) (home : Nat → StreamIndex) {calls : List (Request α)}
    (free : ∀ stage, .fence stage ∉ calls) (stage : Stage α) (rest : List (Request α)) : Span α :=
  { origin := m.workerAt, home, performed := m.performed, results := m.results, calls, free, stage
    rest }

/-- **A span begins where nothing is left to do.** -/
theorem Quiet.open (ops : Operators σ α) (h : m.Quiet) (hm : m.Sound) (hw : m.waiting = none)
    (home : Nat → StreamIndex) {calls rest : List (Request α)} {stage : Stage α}
    (free : ∀ stage, .fence stage ∉ calls) (hp : m.pending = calls ++ .fence stage :: rest) :
    m.Open ops (m.spanTo home free stage rest) := by
  have hissuing : m.Issuing ops (m.spanTo home free stage rest) [] calls := by
    refine ⟨rfl, hw, hp, ⟨[], .nil, (List.append_nil _).symm⟩, fun lane hmem => ⟨[], ?_, ?_⟩⟩
    · have hwork : lane.work = [] := by
        rw [Lane.work, (h lane hmem).1]
        rfl
      refine .busy ⟨?_, fun _ => ?_, (workerAt_of_mem hm hmem).symm⟩ fun hne => absurd hw hne
      · rw [hwork]
        exact List.prefix_rfl
      · rw [hwork]
        rfl
    · exact (List.append_nil _).symm
  exact .issuing hissuing

/-! ### Moves -/

omit [Scalar α] in
theorem Accepts.mono (hl : ∀ {t}, m.Lost t → m'.Lost t) {r : Request α}
    {answer : Except StepError Unit} (h : m.Accepts r answer) : m'.Accepts r answer := by
  cases r with
  | submit b call op => exact h.imp_right fun ⟨hlost, he⟩ => ⟨hl hlost, he⟩
  | fence stage => exact h

omit [Scalar α] in
theorem Accepted.mono (h : m.Accepted s issued) (hl : ∀ {t}, m.Lost t → m'.Lost t)
    (hr : m'.results = m.results) : m'.Accepted s issued := by
  obtain ⟨accepted, haccepts, hresults⟩ := h
  exact ⟨accepted, haccepts.imp fun _ _ h => h.mono hl, hr.trans hresults⟩

omit [Scalar α] in
/-- **A call to a stream that is there is accepted**; one to a stream that is gone is not. -/
theorem accepts_sent (hm : m.Routed size grids requests) {e : Nat × Grid α}
    (he : e ∈ Pool.slots grids) (call : StageCall α) (op : Op α) :
    m.Accepts (.submit (Pool.bind size e) call op) (m.sent (Pool.bind size e) call) := by
  obtain ⟨lane, hmem, hi⟩ := hm.exists_lane he
  obtain ⟨lane', hmem', hi', ⟨-, hsent⟩ | ⟨hlost, hsent⟩⟩ :=
    sent_cases (b := Pool.bind size e) (List.mem_map.mpr ⟨lane, hmem, hi⟩) call
  · exact .inl hsent
  · exact .inr ⟨⟨lane', hmem', hi', hlost⟩, hsent⟩

/-- **A move of a worker keeps every lane on its way.** -/
theorem Amid.worker? (h : m.Amid ops s issued) (hm : m.Routed size grids requests)
    (hb : Request.Bound size grids requests) (hhome : s.home = Pool.home size grids)
    {u : StreamIndex} (hmove : m.worker? ops u = some m') : m'.Amid ops s issued := by
  obtain ⟨lane, lane', after, performed, hlane, hadv, rfl⟩ := worker?_cases hmove
  obtain ⟨hmem, rfl⟩ := mem_of_lane? hlane
  have hindex := Lane.index_of_advance? hadv
  -- what was carried out belongs to this stream
  have hon : ∀ x ∈ performed.toList, s.home x.1 = lane.stream.index := by
    intro x hx
    rcases Lane.params_of_advance? hadv with ⟨rfl, -⟩ | ⟨y, hy, rfl, -⟩
    · cases hx
    · rw [Option.toList_some, List.mem_singleton] at hx
      rw [hx, hhome]
      exact hm.home_of_mem hb hmem hy
  refine forall_replace (fun _ _ _ => ?_) fun old hold hne => ?_
  · obtain ⟨turns, hstands, hadds⟩ := h lane hmem
    obtain ⟨turns', hstands', hcarried⟩ := hstands.advance hadv
      (fun queue hq => eq_nil_of_fence hm.sound hmem hq)
      (fun hw => hm.sound.free (not_not.mp hw) lane hmem)
    rw [hindex]
    refine ⟨turns', hstands', ?_⟩
    rw [Adds, performedOn_append rfl hon, hcarried, ← List.append_assoc, ← hadds]
  · obtain ⟨turns, hstands, hadds⟩ := h old hold
    refine ⟨turns, hstands, ?_⟩
    rw [Adds, performedOn_append_of_ne rfl fun x hx heq => hne (heq.symm.trans (hon x hx)), hadds]

/-- **A call issued is work for its lane.** -/
theorem Amid.posted (h : m.Amid ops s issued) (hw : m.waiting = none) (b : Binding α)
    (call : StageCall α) (op : Op α) (rest : List (Request α)) :
    (m.posted .goOn b call op rest).Amid ops s (issued ++ [.submit b call op]) := by
  have hfree : ¬ m.waiting ≠ none := fun hne => hne hw
  refine forall_replace (fun lane hmem hi => ?_) fun lane hmem hne => ?_
  · obtain ⟨turns, hstands, hadds⟩ := h lane hmem
    rw [← Lane.note, index_note_send, Request.workFor_append, Request.workFor_submit,
      if_pos hi.symm]
    exact ⟨turns, .busy ((hstands.since hfree).send_work _ _ _) fun hne => absurd rfl hne, hadds⟩
  · obtain ⟨turns, hstands, hadds⟩ := h lane hmem
    rw [Request.workFor_append, Request.workFor_submit, if_neg fun hb => hne hb.symm,
      List.append_nil]
    exact ⟨turns, .busy (hstands.since hfree) fun hne => absurd rfl hne, hadds⟩

/-- The issuing side comes to the next fence. -/
theorem Amid.halted (h : m.Amid ops s issued) (hw : m.waiting = none) (stage : Stage α)
    (rest : List (Request α)) : (m.halted stage rest).Amid ops s issued := by
  intro lane hmem
  obtain ⟨old, hold, rfl⟩ := List.mem_map.mp hmem
  obtain ⟨turns, hstands, hadds⟩ := h old hold
  have hsince := hstands.since fun hne => hne hw
  exact ⟨turns, .busy ⟨hsince.begun, hsince.sent, hsince.worker⟩ fun _ => rfl, hadds⟩

/-- A stream is asked for its error. -/
theorem Amid.questioned (h : m.Amid ops s issued) (hm : m.Sound) (hw : m.waiting ≠ none)
    {u : StreamIndex} {others : List StreamIndex} (hu : m.unasked = u :: others) :
    (m.questioned u others).Amid ops s issued := by
  refine forall_replace (fun lane hmem hi => ?_) fun lane hmem _ => h lane hmem
  have hreply := ((hm.unasked hw).2 lane hmem (by rw [hu, hi]; exact List.mem_cons_self)).2
  obtain ⟨turns, hstands, hadds⟩ := h lane hmem
  rw [stream_send]
  refine ⟨turns, ?_, hadds⟩
  cases hstands with
  | busy hsince _ =>
    refine .busy hsince.send_fence fun _ => ?_
    unfold Lane.send
    split <;> exact hreply
  | answered _ hanswered => cases hreply.symm.trans hanswered.reply

/-- **A call is issued.** -/
theorem Issuing.posted {left rest : List (Request α)} (h : m.Issuing ops s issued left)
    (hm : m.Routed size grids requests) (hb : Request.Bound size grids requests) {b : Binding α}
    {call : StageCall α} {op : Op α} (hp : m.pending = .submit b call op :: rest)
    (hl : ∀ {t}, m.Lost t → (m.posted .goOn b call op rest).Lost t) :
    ∃ left', (m.posted .goOn b call op rest).Issuing ops s (issued ++ [.submit b call op])
      left' := by
  obtain ⟨e, he, rfl⟩ := hb b call op (hm.pending _ (hp ▸ List.mem_cons_self))
  have hpending := hp.symm.trans h.pending
  cases left with
  | nil => cases hpending
  | cons r left =>
    obtain ⟨rfl, hrest⟩ := List.cons.inj hpending
    refine ⟨left, ?_, rfl, ?_, ?_, h.amid.posted h.waiting _ call op rest⟩
    · rw [h.calls, List.append_assoc]
      rfl
    · rw [Machine.posted, pending_answered]
      exact hrest
    · obtain ⟨accepted, haccepts, hresults⟩ := h.accepted
      refine ⟨accepted ++ [m.sent (Pool.bind size e) call], ?_, ?_⟩
      · exact List.rel_append (haccepts.imp fun _ _ h => h.mono hl)
          (.cons ((accepts_sent hm he call op).mono hl) .nil)
      · change m.results ++ [m.sent (Pool.bind size e) call] = _
        rw [hresults, List.append_assoc]

/-- **Once all calls have been issued the fence is asked for.** -/
theorem Issuing.halted {left rest : List (Request α)} (h : m.Issuing ops s issued left)
    {stage : Stage α} (hp : m.pending = .fence stage :: rest)
    (hl : ∀ {t}, m.Lost t → (m.halted stage rest).Lost t) :
    (m.halted stage rest).Awaiting ops s := by
  have hpending := hp.symm.trans h.pending
  cases left with
  | nil =>
    obtain ⟨hstage, rfl⟩ := List.cons.inj hpending
    obtain rfl := Request.fence.inj hstage
    obtain rfl : s.calls = issued := h.calls.trans (List.append_nil _)
    exact ⟨rfl, rfl, h.accepted.mono hl rfl, h.amid.halted h.waiting s.stage s.rest⟩
  | cons r left =>
    obtain ⟨rfl, -⟩ := List.cons.inj hpending
    refine absurd ?_ (s.free stage)
    rw [h.calls]
    exact List.mem_append_right _ List.mem_cons_self

theorem Awaiting.waiting_ne_none (h : m.Awaiting ops s) : m.waiting ≠ none := by
  rw [h.waiting]
  exact Option.some_ne_none _

/-- **The fence is answered** by the first error of the lanes. -/
theorem Awaiting.closed (h : m.Awaiting ops s) (hm : m.Sound) (hu : m.unasked = [])
    {answer : Except StepError Unit} (hc : m.collected? s.stage = some answer) :
    (m.answered .goOn m.pending answer).Closed ops s := by
  have hw := h.waiting_ne_none
  have hquiet : m.Quiet := quiet_of_collected? hm hw hu hc
  refine ⟨rfl, ?_, hquiet, fun lane hmem => ?_, ?_⟩
  · rw [pending_answered]
    exact h.pending
  · obtain ⟨_, ha⟩ := answer?_of_collected? hc lane hmem
    obtain ⟨turns, hstands, hadds⟩ := h.amid lane hmem
    exact ⟨turns, hstands.heard hw ha, hadds⟩
  · obtain ⟨answers, hmap, rfl⟩ := collected?_cases hc
    obtain ⟨accepted, haccepts, hresults⟩ := h.accepted
    have hanswers : m.lanes.map (fun lane => (lane.answer? s.stage).join) = answers := by
      rw [show (fun lane : Lane α => (lane.answer? s.stage).join)
        = Option.join ∘ (·.answer? s.stage) from rfl, ← List.map_map, hmap, List.map_map]
      exact List.map_id answers
    refine ⟨accepted, haccepts, ?_⟩
    change m.results ++ [_] = _
    rw [hresults, ← hanswers, List.findSome?_map]
    rfl

/-- **A move of a worker leaves the span open.** -/
theorem Open.worker? (h : m.Open ops s) (hm : m.Routed size grids requests)
    (hb : Request.Bound size grids requests) (hhome : s.home = Pool.home size grids)
    {u : StreamIndex} (hmove : m.worker? ops u = some m') : m'.Open ops s := by
  have hkept : m'.waiting = m.waiting ∧ m'.pending = m.pending ∧ m'.results = m.results := by
    obtain ⟨_, _, _, _, -, -, rfl⟩ := worker?_cases hmove
    exact ⟨rfl, rfl, rfl⟩
  obtain ⟨hw, hp, hr⟩ := hkept
  have hl : ∀ {t}, m.Lost t → m'.Lost t := fun hlost => hlost.worker? hm.sound hmove
  cases h with
  | issuing h => exact .issuing ⟨h.calls, hw.trans h.waiting, hp.trans h.pending,
      h.accepted.mono hl hr, h.amid.worker? hm hb hhome hmove⟩
  | awaiting h => exact .awaiting ⟨hw.trans h.waiting, hp.trans h.pending,
      h.accepted.mono hl hr, h.amid.worker? hm hb hhome hmove⟩

/-- **A move of the issuing side leaves the span open, or closes it.** -/
theorem Open.issuer? (h : m.Open ops s) (hm : m.Routed size grids requests)
    (hb : Request.Bound size grids requests) (hmove : m.issuer? .goOn = some m') :
    m'.Open ops s ∨ m'.Closed ops s := by
  have hl : ∀ {t}, m.Lost t → m'.Lost t := (lost_issuer?_iff hmove).mpr
  cases h with
  | issuing h =>
    rcases issuer?_cases hmove with ⟨b, call, op, rest, -, hp, rfl⟩ | ⟨stage, rest, -, hp, rfl⟩ |
      ⟨_, _, _, hw, -⟩ | ⟨_, _, hw, -⟩
    · obtain ⟨_, hposted⟩ := h.posted hm hb hp hl
      exact .inl (.issuing hposted)
    · exact .inl (.awaiting (h.halted hp hl))
    · cases h.waiting.symm.trans hw
    · cases h.waiting.symm.trans hw
  | awaiting h =>
    rcases issuer?_cases hmove with ⟨_, _, _, _, hw, -⟩ | ⟨_, _, hw, -⟩ |
      ⟨_, u, others, -, hu, rfl⟩ | ⟨stage, answer, hw, hu, hc, rfl⟩
    · exact absurd hw h.waiting_ne_none
    · exact absurd hw h.waiting_ne_none
    · exact .inl (.awaiting ⟨h.waiting, h.pending, h.accepted.mono hl rfl,
        h.amid.questioned hm.sound h.waiting_ne_none hu⟩)
    · obtain rfl := Option.some.inj (h.waiting.symm.trans hw)
      exact .inr (h.closed hm.sound hu hc)

/-- **Once a span is closed, the next move is to ask for more.** -/
theorem Closed.of_move? (h : m.Closed ops s) {actor : Actor}
    (hmove : m.move? ops .goOn actor = some m') : m'.pending.length < s.rest.length := by
  rw [← h.pending]
  cases actor with
  | worker u => cases (h.quiet.worker?_eq_none u).symm.trans hmove
  | issuer =>
    rcases issuer?_cases hmove with ⟨_, _, _, _, -, hp, rfl⟩ | ⟨_, _, -, hp, rfl⟩ |
      ⟨_, _, _, hw, -⟩ | ⟨_, _, hw, -⟩
    · rw [posted, pending_answered, hp]
      exact Nat.lt_succ_self _
    · rw [halted, hp]
      exact Nat.lt_succ_self _
    · cases h.waiting.symm.trans hw
    · cases h.waiting.symm.trans hw

omit [Scalar α] in
theorem length_outstanding_le (m : Machine σ α) : m.outstanding.length ≤ m.pending.length + 1 := by
  rw [outstanding, List.length_append, List.length_map, Nat.add_comm]
  exact Nat.add_le_add_left Option.length_toList_le _

theorem length_pending_le_of_move? {actor : Actor} (hmove : m.move? ops .goOn actor = some m') :
    m'.pending.length ≤ m.pending.length := by
  cases actor with
  | worker u =>
    obtain ⟨_, _, _, _, -, -, rfl⟩ := worker?_cases hmove
    exact Nat.le_refl _
  | issuer =>
    rcases issuer?_cases hmove with ⟨_, _, _, _, -, hp, rfl⟩ | ⟨_, _, -, hp, rfl⟩ |
      ⟨_, _, _, -, -, rfl⟩ | ⟨_, _, -, -, -, rfl⟩
    · rw [posted, pending_answered, hp]
      exact Nat.le_succ _
    · rw [halted, hp]
      exact Nat.le_succ _
    · exact Nat.le_refl _
    · rw [pending_answered]
      exact Nat.le_refl _

/-! ### Along a schedule -/

theorem Open.isFinished_eq_false (h : m.Open ops s) : m.isFinished = false := by
  cases h with
  | issuing h => simp [isFinished, h.pending]
  | awaiting h => simp [isFinished, h.waiting]

/-- An open span waits, or has more before it than what comes after the fence. -/
theorem Open.not_reached (h : m.Open ops s) (hw : m.waiting = none) : m.pending ≠ s.rest := by
  cases h with
  | issuing h =>
    intro hp
    have hlength := congrArg List.length (hp.symm.trans h.pending)
    simp only [List.length_append, List.length_cons] at hlength
    omega
  | awaiting h => exact absurd hw h.waiting_ne_none

section Runs

variable (hb : Request.Bound size grids requests) (hhome : s.home = Pool.home size grids)

include hb hhome

/-- **A move leaves the span open, or closes it.** -/
theorem Open.of_move? (h : m.Open ops s) (hm : m.Routed size grids requests)
    {actor : Actor} (hmove : m.move? ops .goOn actor = some m') :
    m'.Open ops s ∨ m'.Closed ops s := by
  cases actor with
  | issuer => exact h.issuer? hm hb hmove
  | worker u => exact .inl (h.worker? hm hb hhome hmove)

/-- **A span stays open until it is closed**, and what comes then is asked for after it. -/
theorem Open.run (h : m.Open ops s) (hm : m.Routed size grids requests)
    (schedule : Schedule) :
    let m' := m.run ops .goOn schedule
    m'.Routed size grids requests
      ∧ (m'.Open ops s ∨ m'.Closed ops s ∨ m'.pending.length < s.rest.length) := by
  refine run_invariant (I := fun k => k.Routed size grids requests
    ∧ (k.Open ops s ∨ k.Closed ops s ∨ k.pending.length < s.rest.length))
    (fun ⟨hk, hphase⟩ hmove => ⟨hk.of_move? hmove, ?_⟩) ⟨hm, .inl h⟩ schedule
  rcases hphase with hopen | hclosed | hbeyond
  · exact (hopen.of_move? hb hhome hk hmove).imp_right .inl
  · exact .inr (.inr (hclosed.of_move? hmove))
  · exact .inr (.inr (Nat.lt_of_le_of_lt (length_pending_le_of_move? hmove) hbeyond))

/-- **When the fence has been answered and nothing more asked, the span is closed.** -/
theorem Open.closed_run (h : m.Open ops s) (hm : m.Routed size grids requests)
    {schedule : Schedule} (hw : (m.run ops .goOn schedule).waiting = none)
    (hp : (m.run ops .goOn schedule).pending = s.rest) :
    (m.run ops .goOn schedule).Closed ops s := by
  rcases (h.run hb hhome hm schedule).2 with hopen | hclosed | hbeyond
  · exact absurd hp (hopen.not_reached hw)
  · exact hclosed
  · exact absurd hbeyond (by rw [hp]; exact Nat.lt_irrefl _)

/-- **Every span can be closed.** -/
theorem Open.exists_closed (h : m.Open ops s) (hm : m.Routed size grids requests) :
    ∃ schedule, (m.run ops .goOn schedule).Closed ops s := by
  -- every move leaves less to do, until the fence is answered
  induction hn : m.effort using Nat.strong_induction_on generalizing m with
  | _ n ih =>
    obtain ⟨actor, m', hmove⟩ := exists_move? ops .goOn hm.sound h.isFinished_eq_false
    have hlt := effort_lt_of_move? hm.sound hmove
    have hrun : ∀ schedule, m.run ops .goOn (actor :: schedule) = m'.run ops .goOn schedule :=
      fun schedule => by rw [run_cons, hmove, Option.getD_some]
    rcases h.of_move? hb hhome hm hmove with hopen | hclosed
    · obtain ⟨schedule, hclosed⟩ :=
        ih _ (hn ▸ hlt) hopen (hm.of_move? hmove) rfl
      exact ⟨actor :: schedule, hrun schedule ▸ hclosed⟩
    · exact ⟨[actor], hrun [] ▸ hclosed⟩

/-- **As long as the fence is outstanding it can be reached.** -/
theorem Open.exists_reached (h : m.Open ops s) (hm : m.Routed size grids requests)
    (schedule : Schedule)
    (hlt : s.rest.length < (m.run ops .goOn schedule).outstanding.length) :
    ∃ more, (m.run ops .goOn (schedule ++ more)).waiting = none
      ∧ (m.run ops .goOn (schedule ++ more)).pending = s.rest := by
  obtain ⟨hm', hphase⟩ := h.run hb hhome hm schedule
  rcases hphase with hopen | hclosed | hbeyond
  · obtain ⟨more, hclosed⟩ := hopen.exists_closed hb hhome hm'
    rw [← run_append] at hclosed
    exact ⟨more, hclosed.waiting, hclosed.pending⟩
  · rw [outstanding_of_free hclosed.waiting, hclosed.pending] at hlt
    exact absurd hlt (Nat.lt_irrefl _)
  · exact absurd hlt (Nat.not_lt.mpr (Nat.le_trans (length_outstanding_le _) hbeyond))

end Runs

end Machine

end MethodOfLines
