import MethodOfLines.Proofs.Schedule
import MethodOfLines.Proofs.Turns

/-!
# Proofs/History — how far a pool has come with its requests, under any schedule

The issuing side stops at the first error; collaborators may remember and may crash.
`Machine.Follows` says how far a machine has come:

* the requests answered are those `before` the last fence that passed, and the `current` ones since;
* every worker has had all its turns of `before`, and nothing went wrong in them; of `current` it
  has had all but what stands in its queue, or some beginning of it if it is gone;
* an error answers the request after these, and names the stage of that request; if that is an
  operation, a worker is gone;
* the operations carried out on a stream are those its worker carried out in its turns.

Every move keeps this (`Machine.follows_of_move?`), so it holds along every schedule
(`Machine.exists_follows_run`), and every turn is taken at a move of that schedule
(`Machine.TurnIn`).  What makes a fence a barrier is `Machine.follows_passed`: it passes
only if every worker has had all its turns and nothing is wrong with any.
-/

namespace MethodOfLines

variable {σ α : Type} [Scalar α]

/-! ## One lane -/

/-- **Where the turns of a worker have taken its lane.**  `past` are the turns of stages that are
over, in which nothing went wrong, and `turns` those since.  The worker is as they left it, or has
answered for them and has nothing left to do.  All work sent has had its turn or stands in the
queue, unless the worker is gone.  `taken` can hold of every turn and of the worker that took it. -/
structure Lane.Recalls (ops : Operators σ α) (origin : Worker α)
    (before current : List (Nat × Op α)) (past turns : List (Turn σ α)) (lane : Lane α)
    (taken : Worker α → Turn σ α → Prop := fun _ _ => True) : Prop where
  clean : (origin.after ops past).status = .done
  worker : (lane.stream.worker = origin.after ops (past ++ turns) ∧ lane.reply.join = none)
    ∨ (lane.stream.worker = (origin.after ops (past ++ turns)).cleared
      ∧ lane.reply = some (origin.after ops (past ++ turns)).failed ∧ lane.queue = [])
  elapsed : past.map Turn.work = before
  begun : turns.map Turn.work ++ lane.work <+: current
  sent : lane.stream.worker.lost = false → turns.map Turn.work ++ lane.work = current
  each : ∀ {l x l'}, past ++ turns = l ++ x :: l' → taken (origin.after ops l) x

namespace Lane

variable {ops : Operators σ α} {origin : Worker α} {before current : List (Nat × Op α)}
  {past turns : List (Turn σ α)} {lane : Lane α} {taken : Worker α → Turn σ α → Prop}

/-- A worker that has something in its queue, or has not been heard to fail, is as its turns left
it. -/
theorem Recalls.worker_eq (h : lane.Recalls ops origin before current past turns taken)
    (hl : lane.queue ≠ [] ∨ lane.reply.join = none) :
    lane.stream.worker = origin.after ops (past ++ turns) ∧ lane.reply.join = none := by
  rcases h.worker with hw | ⟨hw, hr, hq⟩
  · exact hw
  · rcases hl with hne | hj
    · exact absurd hq hne
    · rw [hr, Option.join_some] at hj
      exact ⟨hw.trans (Worker.cleared_of_failed hj), by rw [hr, Option.join_some, hj]⟩

theorem Recalls.grids_eq (h : lane.Recalls ops origin before current past turns taken) :
    lane.stream.worker.grids = (origin.after ops (past ++ turns)).grids := by
  rcases h.worker with ⟨hw, -⟩ | ⟨hw, -, -⟩ <;> rw [hw]
  rfl

theorem Recalls.lost_eq (h : lane.Recalls ops origin before current past turns taken) :
    lane.stream.worker.lost = (origin.after ops (past ++ turns)).lost := by
  rcases h.worker with ⟨hw, -⟩ | ⟨hw, -, -⟩ <;> rw [hw]
  rfl

omit [Scalar α] in
/-- **The error a lane holds**: the one it has answered with, or that of its worker. -/
def error? (lane : Lane α) : Option StepError :=
  lane.reply.join.or lane.stream.worker.failed

/-- The error a lane holds is that of its turns. -/
theorem Recalls.error?_eq (h : lane.Recalls ops origin before current past turns taken) :
    lane.error? = (origin.after ops (past ++ turns)).failed := by
  rcases h.worker with ⟨hw, hr⟩ | ⟨hw, hr, -⟩
  · rw [error?, hr, hw, Option.none_or]
  · rw [error?, hr, hw, Option.join_some]
    exact Option.or_none

/-- What has had its turn is a beginning of what was sent. -/
theorem Recalls.isPrefix (h : lane.Recalls ops origin before current past turns taken) :
    (past ++ turns).map Turn.work <+: before ++ current := by
  rw [List.map_append, h.elapsed, List.prefix_append_right_inj]
  exact (List.prefix_append _ _).trans h.begun

/-- A worker that is there and has nothing left to do has had its turns of everything sent. -/
theorem Recalls.work_eq (h : lane.Recalls ops origin before current past turns taken)
    (hq : lane.queue = []) (hl : lane.stream.worker.lost = false) :
    (past ++ turns).map Turn.work = before ++ current := by
  have hsent := h.sent hl
  rw [work, hq, List.filterMap_nil, List.append_nil] at hsent
  rw [List.map_append, h.elapsed, hsent]

omit [Scalar α] in
/-- What a lane's answer is: what it replied, or that its worker is gone. -/
theorem answer?_cases {stage : Stage α} {answer : Option StepError}
    (h : lane.answer? stage = some answer) :
    lane.reply = some answer
      ∨ lane.stream.worker.lost = true ∧ answer = lane.stream.answer stage := by
  unfold answer? at h
  split at h
  · next reply hr => exact .inl (hr.trans h)
  · split at h
    · next hl => exact .inr ⟨hl, (Option.some.inj h).symm⟩
    · cases h

/-- **An error that a lane answers is one of its turns since the last fence**, or says that the
worker is gone. -/
theorem Recalls.stage?_of_answer? (h : lane.Recalls ops origin before current past turns taken)
    {stage : Stage α} {e : StepError} (ha : lane.answer? stage = some (some e)) :
    e.stage? = some stage.number
      ∨ ∃ x ∈ current, ∃ n, x.2.number? = some n ∧ e.stage? = some n := by
  rcases answer?_cases ha with hr | ⟨hl, he⟩
  · rcases h.worker with ⟨-, hj⟩ | ⟨-, hr', -⟩
    · rw [hr] at hj
      cases hj
    · rw [hr, Worker.after_append] at hr'
      obtain ⟨x, hx, hn⟩ := Worker.stage?_of_after ops h.clean (Option.some.inj hr').symm
      exact .inr ⟨x.work, h.begun.subset (List.mem_append_left _ (List.mem_map_of_mem hx)), hn⟩
  · rw [Stream.answer, if_pos hl] at he
    obtain rfl := Option.some.inj he
    exact .inl rfl

/-- **A lane that answers without an error has had nothing go wrong**, and nothing is left in its
queue. -/
theorem Recalls.status_of_answer? (h : lane.Recalls ops origin before current past turns taken)
    (ht : lane.Tidy) (hasked : lane.Asked)
    (hheard : lane.reply ≠ none → lane.stream.worker.lost = false) {stage : Stage α}
    (ha : lane.answer? stage = some none) :
    lane.queue = [] ∧ lane.reply.join = none ∧ lane.stream.worker.lost = false
      ∧ (origin.after ops (past ++ turns)).status = .done := by
  obtain ⟨hqueue, hfailed⟩ := quiet_of_answer? ht hasked ha
  rcases answer?_cases ha with hr | ⟨hl, he⟩
  · have hl : lane.stream.worker.lost = false := hheard (by rw [hr]; simp)
    have hj : lane.reply.join = none := by rw [hr, Option.join_some]
    rw [← (h.worker_eq (.inr hj)).1]
    exact ⟨hqueue, hj, hl, Worker.status_eq_done.mpr ⟨hl, hfailed⟩⟩
  · rw [Stream.answer, if_pos hl] at he
    cases he

/-! ### Messages sent -/

omit [Scalar α] in
theorem work_send {lane : Lane α} (hl : lane.stream.worker.lost = false) (message : Message α) :
    (lane.send message).work = lane.work ++ message.work?.toList := by
  rw [send, hl, if_neg (by simp), work, work, List.filterMap_append]
  cases message <;> rfl

omit [Scalar α] in
theorem send_of_lost {lane : Lane α} (hl : lane.stream.worker.lost = true) (message : Message α) :
    lane.send message = lane := if_pos hl

/-- Work sent to a lane whose worker is there. -/
theorem Recalls.send_work (h : lane.Recalls ops origin before current past turns taken)
    (hj : lane.reply.join = none) (hl : lane.stream.worker.lost = false) (id : GridId) (slot : Nat)
    (op : Op α) :
    ((lane.note id).send (.work slot op)).Recalls ops origin before (current ++ [(slot, op)]) past
      turns taken := by
  have hl' : (lane.note id).stream.worker.lost = false := hl
  have hwork : turns.map Turn.work ++ ((lane.note id).send (.work slot op)).work
      = current ++ [(slot, op)] := by
    rw [work_send hl', ← h.sent hl, List.append_assoc]
    rfl
  refine ⟨h.clean, .inl ?_, h.elapsed, hwork ▸ List.prefix_rfl, fun _ => hwork, h.each⟩
  rw [send, if_neg (by simp [hl'])]
  exact h.worker_eq (.inr hj)

/-- The question changes nothing before it is reached. -/
theorem Recalls.send_fence (h : lane.Recalls ops origin before current past turns taken)
    (hr : lane.reply = none) :
    (lane.send .fence).Recalls ops origin before current past turns taken := by
  cases hl : lane.stream.worker.lost with
  | true => rwa [send_of_lost hl]
  | false =>
    have hwork : (lane.send .fence).work = lane.work := by
      rw [work_send hl]
      exact List.append_nil _
    have hw := h.worker_eq (.inr (by rw [hr]; rfl))
    have hsend : (lane.send .fence).stream = lane.stream
        ∧ (lane.send .fence).reply = lane.reply := by
      rw [send, if_neg (by simp [hl])]
      exact ⟨rfl, rfl⟩
    refine ⟨h.clean, .inl ?_, h.elapsed, hwork ▸ h.begun, ?_, h.each⟩
    · rwa [hsend.1, hsend.2]
    · rw [hsend.1, hwork]
      exact h.sent

/-- At the end of a stage a lane that has not failed waits to be asked. -/
theorem Recalls.halt (h : lane.Recalls ops origin before current past turns taken)
    (hj : lane.reply.join = none) :
    ({ lane with reply := none } : Lane α).Recalls ops origin before current past turns taken :=
  ⟨h.clean, .inl ⟨(h.worker_eq (.inr hj)).1, rfl⟩, h.elapsed, h.begun, h.sent, h.each⟩

/-- Work sent to other lanes, and to a lane whose worker is gone, changes nothing. -/
theorem Recalls.note (h : lane.Recalls ops origin before current past turns taken) (id : GridId) :
    (lane.note id).Recalls ops origin before current past turns taken :=
  ⟨h.clean, h.worker, h.elapsed, h.begun, h.sent, h.each⟩

/-- **A fence that passes closes the stage.** -/
theorem Recalls.pass (h : lane.Recalls ops origin before current past turns taken)
    (hq : lane.queue = []) (hj : lane.reply.join = none) (hl : lane.stream.worker.lost = false)
    (hs : (origin.after ops (past ++ turns)).status = .done) :
    lane.Recalls ops origin (before ++ current) [] (past ++ turns) [] taken := by
  have hwork : lane.work = [] := by rw [work, hq]; rfl
  have hturns := h.sent hl
  rw [hwork, List.append_nil] at hturns
  refine ⟨hs, .inl ⟨?_, hj⟩, by rw [List.map_append, h.elapsed, hturns], ?_, fun _ => ?_,
    fun hsplit => h.each (by rw [← hsplit, List.append_nil])⟩
  · rw [List.append_nil]
    exact (h.worker_eq (.inr hj)).1
  · rw [hwork]
    exact List.prefix_rfl
  · rw [hwork]
    rfl

/-! ### Moves of the worker -/

/-- What a lane has carried out in a move. -/
theorem performed_of_advance? {lane lane' : Lane α} {memory memory' : σ}
    {performed : Option (Nat × Op α)}
    (h : lane.advance? ops memory = some (lane', memory', performed)) :
    (∃ queue, lane.queue = .fence :: queue ∧ lane'.stream = lane.stream.cleared
        ∧ lane'.queue = queue ∧ lane'.reply = some lane.stream.worker.failed
        ∧ memory' = memory ∧ performed = none)
      ∨ ∃ slot op queue, lane.queue = .work slot op :: queue
        ∧ lane'.stream = { lane.stream with
            worker := (lane.stream.worker.perform ops slot op memory).1 }
        ∧ lane'.reply = lane.reply
        ∧ lane'.queue = (if lane'.stream.worker.lost then [] else queue)
        ∧ memory' = (lane.stream.worker.perform ops slot op memory).2
        ∧ performed = if lane.stream.worker.status = .done then some (slot, op) else none := by
  unfold advance? at h
  cases hl : lane.stream.worker.lost with
  | true => simp [hl] at h
  | false =>
    simp only [hl, Bool.false_eq_true, if_false] at h
    split at h
    · cases h
    · next rest hq =>
      simp only [Option.some.injEq, Prod.mk.injEq] at h
      obtain ⟨rfl, rfl, rfl⟩ := h
      exact .inl ⟨rest, hq, rfl, rfl, rfl, rfl, rfl⟩
    · next slot op rest hq =>
      simp only [Option.some.injEq, Prod.mk.injEq] at h
      obtain ⟨rfl, rfl, rfl⟩ := h
      refine .inr ⟨slot, op, rest, hq, rfl, rfl, rfl, rfl, ?_⟩
      have hs : lane.stream.worker.status = .done ↔ lane.stream.worker.failed.isNone = true := by
        rw [Worker.status_eq_done, hl, Option.isNone_iff_eq_none]
        exact and_iff_right rfl
      by_cases hd : lane.stream.worker.status = .done
      · rw [if_pos hd, if_pos (hs.mp hd)]
      · rw [if_neg hd, if_neg fun hn => hd (hs.mpr hn)]

/-- **The worker answers** for its turns. -/
theorem Recalls.answer (h : lane.Recalls ops origin before current past turns taken)
    {lane' : Lane α} (hq : lane.queue = [.fence]) (hst : lane'.stream = lane.stream.cleared)
    (hq' : lane'.queue = []) (hr : lane'.reply = some lane.stream.worker.failed) :
    lane'.Recalls ops origin before current past turns taken := by
  have hw := (h.worker_eq (.inl (by simp [hq]))).1
  have hwork : lane'.work = lane.work := by
    rw [work, work, hq, hq']
    rfl
  have hlost : lane'.stream.worker.lost = lane.stream.worker.lost := by
    rw [hst]
    rfl
  refine ⟨h.clean, .inr ⟨?_, by rw [hr, hw], hq'⟩, h.elapsed, hwork ▸ h.begun, ?_, h.each⟩
  · rw [hst, ← hw]
    rfl
  · rw [hlost, hwork]
    exact h.sent

omit [Scalar α] in
/-- The operation at the front of the queue is the next to have its turn. -/
theorem map_work_append {slot : Nat} {op : Op α} {queue : List (Message α)}
    (hq : lane.queue = .work slot op :: queue) (turns : List (Turn σ α)) (memory : σ) :
    turns.map Turn.work ++ lane.work
      = (turns ++ [Turn.mk (slot, op) memory]).map Turn.work ++ queue.filterMap Message.work? := by
  rw [work, hq, List.map_append, List.append_assoc]
  rfl

/-- **The worker takes a turn.** -/
theorem Recalls.turn (h : lane.Recalls ops origin before current past turns taken) {lane' : Lane α}
    {slot : Nat} {op : Op α} {queue : List (Message α)} (hl : lane.stream.worker.lost = false)
    (hq : lane.queue = .work slot op :: queue) {memory : σ}
    (hst : lane'.stream = { lane.stream with
      worker := (lane.stream.worker.perform ops slot op memory).1 })
    (hr : lane'.reply = lane.reply)
    (hq' : lane'.queue = if lane'.stream.worker.lost then [] else queue)
    (htaken : taken lane.stream.worker ⟨(slot, op), memory⟩) :
    lane'.Recalls ops origin before current past (turns ++ [⟨(slot, op), memory⟩]) taken := by
  obtain ⟨hw, hj⟩ := h.worker_eq (.inl (by simp [hq]))
  have hsplit := map_work_append hq turns memory
  have hbegun := h.begun
  rw [hsplit] at hbegun
  refine ⟨h.clean, .inl ⟨?_, by rw [hr, hj]⟩, h.elapsed, ?_, fun hl' => ?_, fun {l x l'} hl' => ?_⟩
  · rw [← List.append_assoc, Worker.after_append, ← hw, hst]
    rfl
  · rw [work, hq']
    split
    · exact (List.append_nil _).symm ▸ (List.prefix_append _ _).trans hbegun
    · exact hbegun
  · rw [work, hq', hl', if_neg (by simp), ← hsplit, h.sent hl]
  · -- the last turn is the one taken now
    rw [← List.append_assoc] at hl'
    obtain rfl | ⟨l', last, rfl⟩ := l'.eq_nil_or_concat'
    · obtain ⟨rfl, hx⟩ := List.append_inj' hl' rfl
      obtain rfl := (List.cons.inj hx).1
      rwa [← hw]
    · rw [← List.cons_append, ← List.append_assoc] at hl'
      exact h.each (List.append_inj' hl' rfl).1

/-- **A move of the worker is a turn**, or its answer. -/
theorem Recalls.advance (h : lane.Recalls ops origin before current past turns taken)
    {lane' : Lane α} {memory memory' : σ} {performed : Option (Nat × Op α)}
    (hadv : lane.advance? ops memory = some (lane', memory', performed))
    (hlast : ∀ queue, lane.queue = .fence :: queue → queue = [])
    (htaken : ∀ slot op queue, lane.queue = .work slot op :: queue →
      taken lane.stream.worker ⟨(slot, op), memory⟩) :
    ∃ turns', lane'.Recalls ops origin before current past turns' taken
      ∧ origin.carried ops (past ++ turns')
        = origin.carried ops (past ++ turns) ++ performed.toList
      ∧ ∀ x ∈ performed.toList, x ∈ current := by
  rcases performed_of_advance? hadv with ⟨queue, hq, hst, hq', hr, -, hp⟩ |
    ⟨slot, op, queue, hq, hst, hr, hq', -, hp⟩
  · obtain rfl := hlast queue hq
    exact ⟨turns, h.answer hq hst hq' hr, by rw [hp, Option.toList_none, List.append_nil],
      by simp [hp]⟩
  · have hlist : performed.toList
        = if lane.stream.worker.status = .done then [(slot, op)] else [] := by
      rw [hp]
      split <;> rfl
    refine ⟨_, h.turn (advance?_cases ops hadv).1 hq hst hr hq' (htaken slot op queue hq), ?_,
      fun y hy => ?_⟩
    · rw [← List.append_assoc, Worker.carried_append, ← (h.worker_eq (.inl (by simp [hq]))).1,
        Worker.carried, Worker.carried, List.append_nil, hlist]
    · have hbegun := h.begun
      rw [map_work_append hq turns memory] at hbegun
      refine hbegun.subset (List.mem_append_left _ ?_)
      rw [hlist] at hy
      split at hy
      · rw [List.map_append, List.mem_singleton.mp hy]
        exact List.mem_append_right _ List.mem_cons_self
      · exact absurd hy List.not_mem_nil

end Lane

/-! ## All lanes -/

omit [Scalar α] in
/-- The worker of a stream in a new pool. -/
def Worker.fresh (size : Nat) (grids : List (Grid α)) (t : StreamIndex) : Worker α :=
  { stream := t, grids := (Pool.slots grids).filter fun e => streamFor e.2.id size = t }

namespace Machine

variable (ops : Operators σ α) (origin : StreamIndex → Worker α) (home : Nat → StreamIndex)
  (requests : List (Request α))

omit [Scalar α] in
/-- **The answers so far.**  The requests `made` have passed; what is left is still to be answered,
or the next request was answered by an error that names its stage. -/
def Answers (made : List (Request α)) (m : Machine σ α) : Prop :=
  (m.results = List.replicate made.length (.ok ()) ∧ requests = made ++ m.outstanding)
    ∨ ∃ request rest e, requests = made ++ request :: rest
      ∧ m.results = List.replicate made.length (.ok ()) ++ [.error e]
      ∧ m.outstanding = [] ∧ e.stage? = some request.number

/-- **How far a machine has come with its requests**, with turns of which `taken` can hold. -/
structure Follows (before current : List (Request α)) (m : Machine σ α)
    (taken : StreamIndex → Worker α → Turn σ α → Prop := fun _ _ _ => True) : Prop where
  sound : m.Sound
  bound : ∀ {b call op}, .submit b call op ∈ requests → b.stream ∈ m.lanes.map (·.stream.index)
  answers : m.Answers requests (before ++ current)
  closed : before = [] ∨ ∃ l stage, before = l ++ [.fence stage]
  free : ∀ stage, .fence stage ∉ current
  lanes : ∀ lane ∈ m.lanes, ∃ past turns,
    lane.Recalls ops (origin lane.stream.index) (Request.workFor lane.stream.index before)
        (Request.workFor lane.stream.index current) past turns (taken lane.stream.index)
      ∧ m.performed.filter (fun x => home x.1 = lane.stream.index)
        = (origin lane.stream.index).carried ops (past ++ turns)
  performed : ∀ x ∈ m.performed, ∃ t, x ∈ Request.workFor t (before ++ current)
  calm : m.waiting = none → m.pending ≠ [] → ∀ lane ∈ m.lanes, lane.reply.join = none
  heard : m.waiting ≠ none → ∀ lane ∈ m.lanes, lane.reply ≠ none → lane.stream.worker.lost = false
  gone : ∀ {b call op rest e}, requests = before ++ current ++ .submit b call op :: rest →
    .error e ∈ m.results → ∃ lane ∈ m.lanes, lane.stream.worker.lost = true

variable {ops origin home requests} {before current : List (Request α)} {m m' : Machine σ α}
  {taken : StreamIndex → Worker α → Turn σ α → Prop}

/-! ### Operations sent -/

omit [Scalar α] in
theorem sent_cases {b : Binding α} (hb : b.stream ∈ m.lanes.map (·.stream.index))
    (call : StageCall α) :
    ∃ lane ∈ m.lanes, lane.stream.index = b.stream
      ∧ (lane.stream.worker.lost = false ∧ m.sent b call = .ok ()
        ∨ lane.stream.worker.lost = true ∧ m.sent b call = .error
          (.dispatch ⟨call.kernel, call.number, b.descriptor.id, .streamLost b.stream⟩)) := by
  obtain ⟨lane, hmem, hi⟩ := List.mem_map.mp hb
  obtain ⟨lane', hfind⟩ : ∃ lane', m.lanes.find? (·.stream.index = b.stream) = some lane' :=
    Option.isSome_iff_exists.mp (List.find?_isSome.mpr ⟨lane, hmem, by simpa using hi⟩)
  obtain ⟨hmem', hi'⟩ := mem_of_lane? hfind
  refine ⟨lane', hmem', hi', ?_⟩
  cases hl : lane'.stream.worker.lost with
  | false => exact .inl ⟨rfl, by simp [sent, hfind, hl]⟩
  | true => exact .inr ⟨rfl, by simp [sent, hfind, hl]⟩

omit [Scalar α] in
/-- Requests still to be made have not been cut off by an error. -/
theorem Answers.going {made : List (Request α)} (h : m.Answers requests made)
    {request : Request α} {rest : List (Request α)} (ho : m.outstanding = request :: rest) :
    m.results = List.replicate made.length (.ok ()) ∧ requests = made ++ request :: rest := by
  rcases h with ⟨hr, hreq⟩ | ⟨_, _, _, -, -, hnone, -⟩
  · exact ⟨hr, ho ▸ hreq⟩
  · rw [ho] at hnone
    cases hnone

omit [Scalar α] in
theorem Answers.no_error {made : List (Request α)} (h : m.Answers requests made)
    {request : Request α} {rest : List (Request α)} (ho : m.outstanding = request :: rest)
    {e : StepError} : .error e ∉ m.results := by
  intro he
  rw [(h.going ho).1] at he
  cases (List.mem_replicate.mp he).2

omit [Scalar α] in
theorem outstanding_of_free (hw : m.waiting = none) : m.outstanding = m.pending := by
  rw [outstanding, hw]
  rfl

omit [Scalar α] in
theorem outstanding_of_waiting {stage : Stage α} (hw : m.waiting = some stage) :
    m.outstanding = .fence stage :: m.pending := by
  rw [outstanding, hw]
  rfl

omit [Scalar α] in
/-- The answer to a request moves it from those outstanding to those made, or ends the run. -/
theorem Answers.answered {made : List (Request α)} (h : m.Answers requests made)
    {request : Request α} {rest : List (Request α)} (ho : m.outstanding = request :: rest)
    {answer : Except StepError Unit} (m' : Machine σ α) (hr : m'.results = m.results ++ [answer])
    (ho' : m'.outstanding = Discipline.stop.onward answer rest) :
    (answer = .ok () ∧ m'.Answers requests (made ++ [request]))
      ∨ ∃ e, answer = .error e ∧ (e.stage? = some request.number → m'.Answers requests made) := by
  obtain ⟨hres, hreq⟩ := h.going ho
  rw [hres] at hr
  cases answer with
  | ok u =>
    refine .inl ⟨rfl, .inl ⟨?_, ?_⟩⟩
    · rw [hr, List.length_append, List.length_singleton, List.replicate_succ']
    · rw [hreq, ho', List.append_assoc]
      rfl
  | error e => exact .inr ⟨e, rfl, fun he => .inr ⟨request, rest, e, hreq, hr, ho', he⟩⟩

omit [Scalar α] in
theorem index_note_send (lane : Lane α) (id : GridId) (message : Message α) :
    ((lane.note id).send message).stream.index = lane.stream.index := by
  rw [stream_send]
  rfl

omit [Scalar α] in
theorem indices_sending (m : Machine σ α) (b : Binding α) (op : Op α) :
    (m.sending b op).map (·.stream.index) = m.lanes.map (·.stream.index) :=
  map_replace fun lane _ _ => index_note_send lane _ _

omit [Scalar α] in
theorem reply_sending {b : Binding α} (h : ∀ lane ∈ m.lanes, lane.reply.join = none) (op : Op α) :
    ∀ lane ∈ m.sending b op, lane.reply.join = none :=
  forall_replace (fun lane hlane _ => by unfold Lane.send; split <;> exact h lane hlane)
    fun lane hlane _ => h lane hlane

/-- **An operation sent to a lane whose worker is there** is one of the current requests. -/
theorem follows_sent (h : m.Follows ops origin home requests before current taken)
    (hw : m.waiting = none) {b : Binding α} {call : StageCall α} {op : Op α}
    {rest : List (Request α)} (hp : m.pending = .submit b call op :: rest)
    {lane : Lane α} (hlane : lane ∈ m.lanes) (hi : lane.stream.index = b.stream)
    (hl : lane.stream.worker.lost = false) (hsent : m.sent b call = .ok ())
    (ha : (m.posted .stop b call op rest).Answers requests
      (before ++ current ++ [.submit b call op])) :
    (m.posted .stop b call op rest).Follows ops origin home requests before
      (current ++ [.submit b call op]) taken := by
  have hcalm := h.calm hw (by rw [hp]; simp)
  have hok := fun {e} => h.answers.no_error ((outstanding_of_free hw).trans hp) (e := e)
  refine ⟨sound_posted h.sound hw b call op rest, fun hm => indices_sending m b op ▸ h.bound hm,
    List.append_assoc .. ▸ ha, h.closed, fun stage hstage => ?_, ?_, fun x hx => ?_,
    fun _ _ => reply_sending hcalm op, fun hw' => absurd rfl hw', fun _ he => ?_⟩
  · rcases List.mem_append.mp hstage with hstage | hstage
    · exact h.free stage hstage
    · cases List.mem_singleton.mp hstage
  · refine forall_replace (fun old hold hi' => ?_) fun old hold hne => ?_
    · obtain rfl := eq_of_index h.sound.nodup hold hlane (hi'.trans hi.symm)
      obtain ⟨past, turns, hrec, hperf⟩ := h.lanes old hold
      refine ⟨past, turns, ?_, ?_⟩
      · rw [← Lane.note, index_note_send, Request.workFor_append, Request.workFor_submit,
          if_pos hi.symm]
        exact hrec.send_work (hcalm old hold) hl _ _ _
      · rw [← Lane.note, index_note_send]
        exact hperf
    · obtain ⟨past, turns, hrec, hperf⟩ := h.lanes old hold
      refine ⟨past, turns, ?_, hperf⟩
      rwa [Request.workFor_append, Request.workFor_submit, if_neg fun hb => hne hb.symm,
        List.append_nil]
  · obtain ⟨t, ht⟩ := h.performed x hx
    refine ⟨t, ?_⟩
    rw [← List.append_assoc, Request.workFor_append]
    exact List.mem_append_left _ ht
  · rcases List.mem_append.mp he with he | he
    · exact absurd he hok
    · rw [hsent] at he
      cases List.mem_singleton.mp he

/-- **An operation sent to a lane whose worker is gone** ends the run. -/
theorem follows_refused (h : m.Follows ops origin home requests before current taken)
    (hw : m.waiting = none) {b : Binding α} {call : StageCall α} {op : Op α}
    {rest : List (Request α)} (hp : m.pending = .submit b call op :: rest)
    {lane : Lane α} (hlane : lane ∈ m.lanes) (hi : lane.stream.index = b.stream)
    (hl : lane.stream.worker.lost = true)
    (ha : (m.posted .stop b call op rest).Answers requests (before ++ current)) :
    (m.posted .stop b call op rest).Follows ops origin home requests before current taken := by
  have hcalm := h.calm hw (by rw [hp]; simp)
  refine ⟨sound_posted h.sound hw b call op rest, fun hm => indices_sending m b op ▸ h.bound hm,
    ha, h.closed, h.free, ?_, h.performed, fun _ _ => reply_sending hcalm op,
    fun hw' => absurd rfl hw', fun _ _ => ?_⟩
  · refine forall_replace (fun old hold hi' => ?_) fun old hold _ => h.lanes old hold
    obtain rfl := eq_of_index h.sound.nodup hold hlane (hi'.trans hi.symm)
    obtain ⟨past, turns, hrec, hperf⟩ := h.lanes old hold
    have hl' : (old.note b.descriptor.id).stream.worker.lost = true := hl
    rw [← Lane.note, Lane.send_of_lost hl']
    exact ⟨past, turns, hrec.note _, hperf⟩
  · refine ⟨_, List.mem_map_of_mem hlane, ?_⟩
    rw [if_pos hi, stream_send]
    exact hl

/-- An operation sent is taken by its lane, or ends the run. -/
theorem follows_posted (h : m.Follows ops origin home requests before current taken)
    (hw : m.waiting = none) {b : Binding α} {call : StageCall α} {op : Op α}
    {rest : List (Request α)} (hp : m.pending = .submit b call op :: rest) :
    ∃ current', (m.posted .stop b call op rest).Follows ops origin home requests before
      current' taken := by
  have hout : m.outstanding = .submit b call op :: rest := (outstanding_of_free hw).trans hp
  have hmem : .submit b call op ∈ requests := by
    rw [(h.answers.going hout).2]
    exact List.mem_append_right _ List.mem_cons_self
  have hanswers := h.answers.answered hout (m.posted .stop b call op rest) rfl
    (by rw [outstanding_of_free rfl, posted, pending_answered])
  obtain ⟨lane, hlane, hi, ⟨hl, hsent⟩ | ⟨hl, hsent⟩⟩ := sent_cases (h.bound hmem) call
  · rcases hanswers with ⟨-, ha⟩ | ⟨e, he, -⟩
    · exact ⟨_, follows_sent h hw hp hlane hi hl hsent ha⟩
    · rw [hsent] at he
      cases he
  · rcases hanswers with ⟨ha, -⟩ | ⟨e, he, ha⟩
    · rw [hsent] at ha
      cases ha
    · rw [hsent] at he
      obtain rfl := Except.error.inj he
      exact ⟨_, follows_refused h hw hp hlane hi hl (ha rfl)⟩

/-! ### The end of a stage -/

/-- The issuing side comes to the end of a stage. -/
theorem follows_halted (h : m.Follows ops origin home requests before current taken)
    (hw : m.waiting = none) {stage : Stage α} {rest : List (Request α)}
    (hp : m.pending = .fence stage :: rest) :
    (m.halted stage rest).Follows ops origin home requests before current taken := by
  have hcalm := h.calm hw (by rw [hp]; simp)
  have hout : (m.halted stage rest).outstanding = m.outstanding := by
    rw [outstanding_of_waiting rfl, outstanding_of_free hw, hp]
    rfl
  have hindices : (m.halted stage rest).lanes.map (·.stream.index)
      = m.lanes.map (·.stream.index) := by
    rw [halted, List.map_map]
    rfl
  refine ⟨sound_halted h.sound hw stage rest, fun hm => hindices ▸ h.bound hm, ?_, h.closed,
    h.free, fun lane hmem => ?_, h.performed, fun hw' => ?_, fun _ lane hmem hr => ?_,
    fun _ he => absurd he (h.answers.no_error ((outstanding_of_free hw).trans hp))⟩
  · rw [Answers, hout]
    exact h.answers
  · obtain ⟨old, hold, rfl⟩ := List.mem_map.mp hmem
    obtain ⟨past, turns, hrec, hperf⟩ := h.lanes old hold
    exact ⟨past, turns, hrec.halt (hcalm old hold), hperf⟩
  · cases hw'
  · obtain ⟨old, hold, rfl⟩ := List.mem_map.mp hmem
    exact absurd rfl hr

/-- A stream is asked for its error. -/
theorem follows_questioned (h : m.Follows ops origin home requests before current taken)
    {stage : Stage α} (hw : m.waiting = some stage) {s : StreamIndex} {others : List StreamIndex}
    (hu : m.unasked = s :: others) :
    (m.questioned s others).Follows ops origin home requests before current taken := by
  have hw' : m.waiting ≠ none := by simp [hw]
  have hindices : (m.asking s).map (·.stream.index) = m.lanes.map (·.stream.index) :=
    map_replace fun lane _ _ => by simp only [stream_send]
  refine ⟨sound_questioned h.sound hw hu, fun hm => hindices ▸ h.bound hm, h.answers, h.closed,
    h.free, ?_, h.performed, fun hw'' => absurd hw'' hw', fun _ => ?_,
    fun _ he => absurd he (h.answers.no_error (outstanding_of_waiting hw))⟩
  · refine forall_replace (fun lane hmem hi => ?_) fun lane hmem _ => h.lanes lane hmem
    obtain ⟨past, turns, hrec, hperf⟩ := h.lanes lane hmem
    have hreply := ((h.sound.unasked hw').2 lane hmem (by rw [hu, hi]; exact List.mem_cons_self)).2
    rw [stream_send]
    exact ⟨past, turns, hrec.send_fence hreply, hperf⟩
  · refine forall_replace (fun lane hmem _ hr => ?_) fun lane hmem _ => h.heard hw' lane hmem
    rw [stream_send]
    refine h.heard hw' lane hmem fun hnone => hr ?_
    unfold Lane.send
    split <;> exact hnone

/-- **A fence passes only if every worker has had all its turns and nothing is wrong with any.** -/
theorem follows_passed (h : m.Follows ops origin home requests before current taken)
    {stage : Stage α} (hw : m.waiting = some stage) (hu : m.unasked = [])
    (hc : m.collected? stage = some (.ok ()))
    (ha : (m.answered .stop m.pending (.ok ())).Answers requests
      (before ++ current ++ [.fence stage])) :
    (m.answered .stop m.pending (.ok ())).Follows ops origin home requests
      (before ++ current ++ [.fence stage]) [] taken := by
  have hw' : m.waiting ≠ none := by simp [hw]
  have hnone : ∀ lane ∈ m.lanes, lane.answer? stage = some none := by
    intro lane hmem
    obtain ⟨answers, hmap, hok⟩ := collected?_cases hc
    obtain ⟨answer, hanswer, heq⟩ := List.mem_map.mp (hmap ▸ List.mem_map_of_mem hmem)
    have hall := List.findSome?_eq_none_iff.mp (StepError.result_eq_ok.mp hok.symm) answer hanswer
    rw [← heq, show answer = none from hall]
  have hlane : ∀ lane ∈ m.lanes, ∃ past turns,
      lane.Recalls ops (origin lane.stream.index)
          (Request.workFor lane.stream.index (before ++ current ++ [.fence stage])) [] past turns
          (taken lane.stream.index)
        ∧ m.performed.filter (fun x => home x.1 = lane.stream.index)
          = (origin lane.stream.index).carried ops (past ++ turns)
        ∧ lane.reply.join = none := by
    intro lane hmem
    obtain ⟨past, turns, hrec, hperf⟩ := h.lanes lane hmem
    have hasked := h.sound.asked hw' lane hmem (by simp [hu])
    obtain ⟨hq, hj, hl, hs⟩ := hrec.status_of_answer? (h.sound.tidy lane hmem) hasked
      (h.heard hw' lane hmem) (hnone lane hmem)
    refine ⟨past ++ turns, [], ?_, by rw [List.append_nil, hperf], hj⟩
    rw [Request.workFor_append, Request.workFor_append, Request.workFor_fence, List.append_nil]
    exact hrec.pass hq hj hl hs
  refine ⟨sound_collected h.sound hw hu (answer?_of_collected? hc) _, h.bound,
    (List.append_nil _).symm ▸ ha, .inr ⟨_, stage, rfl⟩, fun _ => List.not_mem_nil,
    fun lane hmem => ?_, fun x hx => ?_, fun _ _ lane hmem => ?_, fun hw'' => absurd rfl hw'',
    fun _ he => ?_⟩
  · obtain ⟨past, turns, hrec, hperf, -⟩ := hlane lane hmem
    exact ⟨past, turns, hrec, hperf⟩
  · obtain ⟨t, ht⟩ := h.performed x hx
    refine ⟨t, ?_⟩
    rw [List.append_nil, Request.workFor_append]
    exact List.mem_append_left _ ht
  · obtain ⟨_, _, -, -, hj⟩ := hlane lane hmem
    exact hj
  · rcases List.mem_append.mp he with he | he
    · exact absurd he (h.answers.no_error (outstanding_of_waiting hw))
    · cases List.mem_singleton.mp he

/-- **The error at the end of a stage names the stage.** -/
theorem stage?_of_collected? (ho : Request.Orderly home requests)
    (h : m.Follows ops origin home requests before current taken) {stage : Stage α}
    (hw : m.waiting = some stage) {e : StepError} (hc : m.collected? stage = some (.error e)) :
    e.stage? = some stage.number := by
  obtain ⟨answers, hmap, herror⟩ := collected?_cases hc
  obtain ⟨answer, hanswer, rfl⟩ :=
    List.exists_of_findSome?_eq_some (StepError.result_eq_error.mp herror.symm)
  obtain ⟨lane, hmem, hlane⟩ := List.mem_map.mp (hmap ▸ List.mem_map_of_mem hanswer)
  obtain ⟨past, turns, hrec, -⟩ := h.lanes lane hmem
  rcases hrec.stage?_of_answer? hlane with he | ⟨x, hx, n, hn, he⟩
  · exact he
  · -- the operation that failed was sent since the last fence, so it belongs to the stage
    obtain ⟨b, call, hsubmit, -, -⟩ := Request.mem_workFor.mp hx
    have hreq := (h.answers.going (outstanding_of_waiting hw)).2
    have hmade : .submit b call x.2 ∈ requests := by
      rw [hreq]
      exact List.mem_append_left _ (List.mem_append_right _ hsubmit)
    have hchain := ho.chain
    rw [hreq, List.append_assoc] at hchain
    have hnumber := Request.number_of_mem_chain hchain.right_of_append h.free _ hsubmit
    rw [he, ho.number hmade hn]
    exact congrArg some hnumber

/-- **A fence that does not pass ends the run**, with an error of the stage. -/
theorem follows_collected (ho : Request.Orderly home requests)
    (h : m.Follows ops origin home requests before current taken) {stage : Stage α}
    (hw : m.waiting = some stage) (hu : m.unasked = []) {answer : Except StepError Unit}
    (hc : m.collected? stage = some answer) :
    (m.answered .stop m.pending answer).Follows ops origin home requests before current taken
      ∨ ∃ before', (m.answered .stop m.pending answer).Follows ops origin home requests before' []
        taken := by
  have hout := outstanding_of_waiting hw
  rcases h.answers.answered hout (m.answered .stop m.pending answer) rfl
    (by rw [outstanding_of_free rfl, pending_answered]) with ⟨rfl, ha⟩ | ⟨e, rfl, ha⟩
  · exact .inr ⟨_, follows_passed h hw hu hc ha⟩
  · refine .inl ⟨sound_collected h.sound hw hu (answer?_of_collected? hc) _, h.bound,
      ha (stage?_of_collected? ho h hw hc), h.closed, h.free, h.lanes, h.performed,
      fun _ hp => absurd rfl hp, fun hw' => absurd rfl hw', fun hreq _ => ?_⟩
    -- the request answered is the fence
    rw [(h.answers.going hout).2] at hreq
    cases List.append_cancel_left hreq

/-! ### A worker's move -/

omit [Scalar α] in
/-- The question for the error stands at the end of a queue. -/
theorem eq_nil_of_fence (hm : m.Sound) {lane : Lane α} (hmem : lane ∈ m.lanes)
    {queue : List (Message α)} (hq : lane.queue = .fence :: queue) : queue = [] := by
  have hnot : ¬ lane.Working := fun hwork => hwork .fence (hq ▸ List.mem_cons_self)
  cases hw : m.waiting with
  | none => exact absurd (hm.free hw lane hmem) hnot
  | some stage =>
    have hw' : m.waiting ≠ none := by simp [hw]
    by_cases hun : lane.stream.index ∈ m.unasked
    · exact absurd ((hm.unasked hw').2 lane hmem hun).1 hnot
    · rcases hm.asked hw' lane hmem hun with ⟨-, works, hworks, hq'⟩ | ⟨-, hq', -⟩ | hl
      · rw [hq] at hq'
        cases works with
        | nil => exact (List.cons.inj hq').2
        | cons message works =>
          obtain ⟨rfl, -⟩ := List.cons.inj hq'
          exact (hworks _ List.mem_cons_self).elim
      · rw [hq] at hq'
        cases hq'
      · rw [(hm.tidy lane hmem).2 hl] at hq
        cases hq

omit [Scalar α] in
theorem Answers.isPrefix {made : List (Request α)} (h : m.Answers requests made) :
    made <+: requests := by
  rcases h with ⟨-, hreq⟩ | ⟨_, _, _, hreq, -⟩ <;> rw [hreq] <;> exact List.prefix_append _ _

/-- A lane that moves while the issuing side waits has not answered yet. -/
theorem reply_of_advance? (hm : m.Sound) (hw : m.waiting ≠ none) {lane lane' : Lane α}
    (hmem : lane ∈ m.lanes) {memory memory' : σ} {performed : Option (Nat × Op α)}
    (hadv : lane.advance? ops memory = some (lane', memory', performed)) : lane.reply = none := by
  by_cases hun : lane.stream.index ∈ m.unasked
  · exact ((hm.unasked hw).2 lane hmem hun).2
  · exact (Lane.asked_of_advance? hadv (hm.asked hw lane hmem hun)).2

omit [Scalar α] in
/-- **The next turn on a stream**: what is at the front of its queue, with what is remembered. -/
structure Faces (m : Machine σ α) (t : StreamIndex) (w : Worker α) (x : Turn σ α) : Prop where
  lane : ∃ lane ∈ m.lanes, lane.stream.index = t ∧ lane.stream.worker = w
    ∧ ∃ rest, lane.queue = .work x.work.1 x.work.2 :: rest
  memory : x.memory = m.memory

/-- **A worker takes its turn.** -/
theorem follows_worker? (ho : Request.Orderly home requests)
    (h : m.Follows ops origin home requests before current taken) {s : StreamIndex}
    (hmove : m.worker? ops s = some m') (htaken : ∀ w x, m.Faces s w x → taken s w x) :
    m'.Follows ops origin home requests before current taken := by
  have hsound := sound_of_worker? h.sound hmove
  obtain ⟨lane, lane', after, performed, hlane, hadv, rfl⟩ := worker?_cases hmove
  obtain ⟨hmem, rfl⟩ := mem_of_lane? hlane
  have hindex := Lane.index_of_advance? hadv
  obtain ⟨past, turns, hrec, hperf⟩ := h.lanes lane hmem
  obtain ⟨turns', hrec', hcarried, hnew⟩ :=
    hrec.advance hadv (fun queue hq => eq_nil_of_fence h.sound hmem hq)
      fun slot op queue hq => htaken _ _ ⟨⟨lane, hmem, rfl, rfl, queue, hq⟩, rfl⟩
  -- what was carried out belongs to this stream
  have hhome : ∀ x ∈ performed.toList, home x.1 = lane.stream.index := by
    intro x hx
    obtain ⟨b, call, hsubmit, hb, hslot⟩ := Request.mem_workFor.mp (hnew x hx)
    rw [← hslot, ho.home (h.answers.isPrefix.subset (List.mem_append_right _ hsubmit)), hb]
  refine ⟨hsound, fun hm => ?_, h.answers, h.closed, h.free, ?_, fun x hx => ?_, fun hw hp => ?_,
    fun hw => ?_, fun hreq he => ?_⟩
  · rw [map_replace fun old _ hi => hindex.trans hi.symm]
    exact h.bound hm
  · refine forall_replace (fun _ _ _ => ?_) fun old hold hne => ?_
    · rw [hindex]
      refine ⟨past, turns', hrec', ?_⟩
      rw [List.filter_append, hperf, hcarried, List.filter_eq_self.mpr fun x hx => by
        simpa using hhome x hx]
    · obtain ⟨past, turns, hrec, hperf⟩ := h.lanes old hold
      refine ⟨past, turns, hrec, ?_⟩
      rw [List.filter_append, hperf, List.filter_eq_nil_iff.mpr fun x hx => by
        simpa [hhome x hx] using Ne.symm hne, List.append_nil]
  · rcases List.mem_append.mp hx with hx | hx
    · exact h.performed x hx
    · refine ⟨lane.stream.index, ?_⟩
      rw [Request.workFor_append]
      exact List.mem_append_right _ (hnew x hx)
  · refine forall_replace (fun _ _ _ => ?_) fun old hold _ => h.calm hw hp old hold
    rw [(Lane.working_of_advance? hadv (h.sound.free hw lane hmem)).2]
    exact h.calm hw hp lane hmem
  · refine forall_replace (fun _ _ _ hr => ?_) fun old hold _ => h.heard hw old hold
    have hnone := reply_of_advance? h.sound hw hmem hadv
    rcases Lane.performed_of_advance? hadv with ⟨_, -, hst, -⟩ | ⟨_, _, _, -, -, hr', -⟩
    · rw [hst]
      exact (Lane.advance?_cases ops hadv).1
    · exact absurd (hr'.trans hnone) hr
  · -- a worker that is gone does not move
    obtain ⟨old, hold, hl⟩ := h.gone hreq he
    refine ⟨old, List.mem_map.mpr ⟨old, hold, if_neg fun hi => ?_⟩, hl⟩
    rw [eq_of_index h.sound.nodup hold hmem hi, (Lane.advance?_cases ops hadv).1] at hl
    cases hl

/-! ### Along a schedule -/

theorem Follows.imp (h : m.Follows ops origin home requests before current taken)
    {taken' : StreamIndex → Worker α → Turn σ α → Prop}
    (himp : ∀ t w x, taken t w x → taken' t w x) :
    m.Follows ops origin home requests before current taken' :=
  { h with
    lanes := fun lane hmem => by
      obtain ⟨past, turns, hrec, hperf⟩ := h.lanes lane hmem
      exact ⟨past, turns, { hrec with each := fun hsplit => himp _ _ _ (hrec.each hsplit) },
        hperf⟩ }

/-- **A move keeps what came before the last fence, or another fence passes.** -/
theorem before_of_move? (ho : Request.Orderly home requests)
    (h : m.Follows ops origin home requests before current taken) {actor : Actor}
    (hmove : m.move? ops .stop actor = some m')
    (htaken : ∀ t w x, actor = .worker t → m.Faces t w x → taken t w x := by intros; trivial) :
    (∃ current', m'.Follows ops origin home requests before current' taken)
      ∨ ∃ before', m'.Follows ops origin home requests before' [] taken := by
  cases actor with
  | worker s => exact .inl ⟨current, follows_worker? ho h hmove fun w x => htaken s w x rfl⟩
  | issuer =>
    rcases issuer?_cases hmove with ⟨b, call, op, rest, hw, hp, rfl⟩ | ⟨stage, rest, hw, hp, rfl⟩ |
      ⟨stage, s, others, hw, hu, rfl⟩ | ⟨stage, answer, hw, hu, hc, rfl⟩
    · exact .inl (follows_posted h hw hp)
    · exact .inl ⟨current, follows_halted h hw hp⟩
    · exact .inl ⟨current, follows_questioned h hw hu⟩
    · exact (follows_collected ho h hw hu hc).imp_left fun h => ⟨current, h⟩

/-- **Every move keeps to the requests.** -/
theorem follows_of_move? (ho : Request.Orderly home requests)
    (h : m.Follows ops origin home requests before current taken) {actor : Actor}
    (hmove : m.move? ops .stop actor = some m')
    (htaken : ∀ t w x, actor = .worker t → m.Faces t w x → taken t w x := by intros; trivial) :
    ∃ before' current', m'.Follows ops origin home requests before' current' taken := by
  rcases before_of_move? ho h hmove htaken with ⟨current', h⟩ | ⟨before', h⟩
  · exact ⟨before, current', h⟩
  · exact ⟨before', [], h⟩

/-- **A turn taken in a run**: at one of the moves of its worker it was the next. -/
def TurnIn (ops : Operators σ α) (d : Discipline) (m : Machine σ α) (schedule : Schedule)
    (t : StreamIndex) (w : Worker α) (x : Turn σ α) : Prop :=
  ∃ early late, schedule = early ++ .worker t :: late ∧ (m.run ops d early).Faces t w x

theorem TurnIn.concat {d : Discipline} {schedule : Schedule} {t : StreamIndex} {w : Worker α}
    {x : Turn σ α} (h : m.TurnIn ops d schedule t w x) (actor : Actor) :
    m.TurnIn ops d (schedule ++ [actor]) t w x := by
  obtain ⟨early, late, rfl, hx⟩ := h
  exact ⟨early, late ++ [actor], by simp, hx⟩

omit [Scalar α] in
/-- A lane of a new machine has a new worker and nothing to do. -/
theorem lane_of_mem_start {size : Nat} {grids : List (Grid α)} {memory : σ} {lane : Lane α}
    (h : lane ∈ (start size grids memory requests).lanes) :
    lane.stream.worker = Worker.fresh size grids lane.stream.index ∧ lane.queue = []
      ∧ lane.reply = none := by
  obtain ⟨st, hst, rfl⟩ := List.mem_map.mp h
  obtain ⟨t, -, rfl⟩ := List.mem_map.mp hst
  exact ⟨rfl, rfl, rfl⟩

/-- A new machine has its requests before it. -/
theorem follows_start (size : Nat) (grids : List (Grid α)) (memory : σ)
    (hb : ∀ {b call op}, .submit b call op ∈ requests →
      b.stream ∈ (Pool.spawn size grids memory).indices) :
    (start size grids memory requests).Follows ops (Worker.fresh size grids) home requests [] []
      taken := by
  refine ⟨sound_start size grids memory requests, fun hm => ?_, .inl ⟨rfl, rfl⟩, .inl rfl,
    fun _ => List.not_mem_nil, fun lane hmem => ⟨[], [], ?_, rfl⟩,
    fun x hx => absurd hx List.not_mem_nil, fun _ _ lane hmem => ?_, fun hw => absurd rfl hw,
    fun _ he => absurd he List.not_mem_nil⟩
  · rw [start, List.map_map]
    exact hb hm
  · obtain ⟨hworker, hqueue, hreply⟩ := lane_of_mem_start hmem
    have hwork : lane.work = [] := by rw [Lane.work, hqueue]; rfl
    exact ⟨rfl, .inl ⟨hworker, by rw [hreply]; rfl⟩, rfl, by rw [hwork]; exact List.prefix_rfl,
      fun _ => by rw [hwork]; rfl, fun hsplit => absurd hsplit.symm (by simp)⟩
  · rw [(lane_of_mem_start hmem).2.2]
    rfl

/-- **Under every schedule a machine keeps to its requests**, by turns of that schedule. -/
theorem exists_follows_run (ops : Operators σ α) (ho : Request.Orderly home requests) {size : Nat}
    {grids : List (Grid α)} {memory : σ}
    (hb : ∀ {b call op}, .submit b call op ∈ requests →
      b.stream ∈ (Pool.spawn size grids memory).indices) (schedule : Schedule) :
    ∃ before current, ((start size grids memory requests).run ops .stop schedule).Follows ops
      (Worker.fresh size grids) home requests before current
      ((start size grids memory requests).TurnIn ops .stop schedule) := by
  induction schedule using List.reverseRecOn with
  | nil => exact ⟨[], [], follows_start size grids memory hb⟩
  | append_singleton schedule actor ih =>
    obtain ⟨before, current, h⟩ := ih
    replace h := h.imp fun t w x hx => hx.concat actor
    rw [run_concat]
    cases hmove : ((start size grids memory requests).run ops .stop schedule).move? ops .stop
        actor with
    | none => exact ⟨before, current, h⟩
    | some m' =>
      refine follows_of_move? ho h hmove fun t w x hactor hx => ?_
      exact ⟨schedule, [], by rw [hactor], hx⟩

end Machine

end MethodOfLines
