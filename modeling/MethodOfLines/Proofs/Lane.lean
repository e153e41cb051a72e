import MethodOfLines.Proofs.Pool
import MethodOfLines.Stream.Interleaving

/-!
# Proofs/Lane — a stream read as if its queue were empty

A worker alone decides what becomes of its queue, so a lane can be read ahead: `Lane.settled` is its
stream once the queue is worked off, and `Lane.forecast` the answer it will have given at the end of
the stage.  A move of the worker changes neither (`Lane.settled_of_advance?`,
`Lane.forecast_of_advance?`), because it takes one message off the queue and does to the stream what
reading ahead had done already.

Collaborators are functional here, so the memory a worker is given does not matter; all reading
ahead is done with one `memory`.
-/

namespace MethodOfLines

variable {σ α : Type}

/-! ## A worker that is gone -/

namespace Worker

variable [Scalar α] (ops : Operators σ α)

/-- A worker that is gone has no error to report: it was lost in place of one. -/
def Tidy (w : Worker α) : Prop := w.lost = true → w.failed = none

omit [Scalar α] in
theorem tidy_settle {w : Worker α} (h : w.status = .done) (slot : Nat) (v : Verdict) (g : Grid α) :
    (w.settle slot v g).Tidy := by
  obtain ⟨hl, hf⟩ := status_eq_done.mp h
  cases v <;> simp [Tidy, settle, setGrid, hl, hf]

theorem tidy_perform {w : Worker α} (h : w.Tidy) (slot : Nat) (op : Op α) (memory : σ) :
    (w.perform ops slot op memory).1.Tidy := by
  by_cases hs : w.status = .done
  · rw [perform_of_status ops hs]
    obtain ⟨-, hf⟩ := status_eq_done.mp hs
    cases op with
    | syncParams params => exact h
    | _ =>
      cases hg : w.grid? slot with
      | none => simp only [execute, hg]; exact fun _ => hf
      | some g => simp only [execute, hg]; exact tidy_settle hs slot _ _
  · rwa [perform_of_status_ne ops hs]

theorem perform_of_lost {w : Worker α} (h : w.lost = true) (slot : Nat) (op : Op α) (memory : σ) :
    (w.perform ops slot op memory).1 = w := by
  rw [perform, h, Bool.true_or, if_pos rfl]

omit [Scalar α] in
theorem cleared_of_failed {w : Worker α} (h : w.failed = none) : w.cleared = w := by
  obtain ⟨stream, grids, params, failed, lost⟩ := w
  cases h
  rfl

end Worker

/-! ## Reading ahead on a stream -/

/-- A message that asks for work. -/
def Message.IsWork : Message α → Prop
  | .work _ _ => True
  | .fence => False

namespace Stream

theorem cleared_of_failed {st : Stream α} (h : st.worker.failed = none) : st.cleared = st := by
  rw [cleared, Worker.cleared_of_failed h]

variable [Scalar α] (ops : Operators σ α) (memory : σ)

/-- What a message makes of a stream. -/
def take (st : Stream α) : Message α → Stream α
  | .work slot op => { st with worker := (st.worker.perform ops slot op memory).1 }
  | .fence => st.cleared

/-- What a queue makes of a stream. -/
def takeAll (st : Stream α) (queue : List (Message α)) : Stream α :=
  queue.foldl (take ops memory) st

/-- **The answer a stream will give**, with a queue before the question. -/
def forecast (stage : Stage α) : List (Message α) → Stream α → Option StepError
  | .work slot op :: queue, st => forecast stage queue (st.take ops memory (.work slot op))
  | [], st | .fence :: _, st => st.answer stage

theorem takeAll_append (st : Stream α) (l l' : List (Message α)) :
    st.takeAll ops memory (l ++ l') = (st.takeAll ops memory l).takeAll ops memory l' :=
  List.foldl_append

/-- Functional collaborators make the same of a message whatever is remembered. -/
theorem take_congr {ops : Operators σ α} (hf : ops.Functional) (memory memory' : σ) (st : Stream α)
    (message : Message α) : st.take ops memory message = st.take ops memory' message := by
  cases message with
  | work slot op => rw [take, take, Worker.perform_fst_congr hf st.worker slot op memory memory']
  | fence => rfl

@[simp] theorem index_take (st : Stream α) (message : Message α) :
    (st.take ops memory message).index = st.index := by
  cases message with
  | work slot op => exact Worker.stream_perform ops st.worker slot op memory
  | fence => rfl

@[simp] theorem index_takeAll (queue : List (Message α)) :
    ∀ st : Stream α, (st.takeAll ops memory queue).index = st.index := by
  induction queue with
  | nil => exact fun _ => rfl
  | cons message queue ih => exact fun st => (ih _).trans (index_take ops memory st message)

theorem tidy_take {st : Stream α} (h : st.worker.Tidy) (message : Message α) :
    (st.take ops memory message).worker.Tidy := by
  cases message with
  | work slot op => exact Worker.tidy_perform ops h slot op memory
  | fence => exact fun _ => rfl

/-- A stream whose worker is gone is not moved by anything. -/
theorem take_of_lost {st : Stream α} (h : st.worker.Tidy) (hl : st.worker.lost = true)
    (message : Message α) : st.take ops memory message = st := by
  cases message with
  | work slot op => rw [take, Worker.perform_of_lost ops hl]
  | fence => exact cleared_of_failed (h hl)

theorem takeAll_of_lost {st : Stream α} (h : st.worker.Tidy) (hl : st.worker.lost = true)
    (queue : List (Message α)) : st.takeAll ops memory queue = st := by
  induction queue with
  | nil => rfl
  | cons message queue ih =>
    rw [takeAll, List.foldl_cons, take_of_lost ops memory h hl]
    exact ih

theorem forecast_of_lost {st : Stream α} (h : st.worker.Tidy) (hl : st.worker.lost = true)
    (stage : Stage α) (queue : List (Message α)) :
    forecast ops memory stage queue st = st.answer stage := by
  induction queue with
  | nil => rfl
  | cons message queue ih =>
    cases message with
    | work slot op => rw [forecast, take_of_lost ops memory h hl, ih]
    | fence => rfl

/-- The question at the end of a queue is what the forecast is for. -/
theorem forecast_append_fence (stage : Stage α) (queue : List (Message α)) :
    ∀ st : Stream α, forecast ops memory stage (queue ++ [.fence]) st
      = forecast ops memory stage queue st := by
  induction queue with
  | nil => exact fun _ => rfl
  | cons message queue ih =>
    intro st
    cases message with
    | work slot op => exact ih _
    | fence => rfl

theorem forecast_of_isWork (stage : Stage α) {queue : List (Message α)}
    (h : ∀ message ∈ queue, message.IsWork) :
    ∀ st : Stream α, forecast ops memory stage queue st
      = (st.takeAll ops memory queue).answer stage := by
  induction queue with
  | nil => exact fun _ => rfl
  | cons message queue ih =>
    intro st
    cases message with
    | work slot op => exact ih (fun m hm => h m (List.mem_cons_of_mem _ hm)) _
    | fence => exact (h .fence List.mem_cons_self).elim

end Stream

/-! ## Reading ahead on a lane -/

namespace Lane

/-- **A lane whose worker is gone has nothing left in its queue**, and no error. -/
def Tidy (lane : Lane α) : Prop :=
  lane.stream.worker.Tidy ∧ (lane.stream.worker.lost = true → lane.queue = [])

/-- A lane that has not been asked for its error: all of its queue is work. -/
def Working (lane : Lane α) : Prop := ∀ message ∈ lane.queue, message.IsWork

/-- **A lane that has been asked for its error**: the question is the last message of its queue, or
the worker has answered and has nothing left to do, or the worker is gone. -/
def Asked (lane : Lane α) : Prop :=
  (lane.reply = none
      ∧ ∃ queue, (∀ message ∈ queue, message.IsWork) ∧ lane.queue = queue ++ [.fence])
    ∨ (lane.reply ≠ none ∧ lane.queue = [] ∧ lane.stream.worker.failed = none)
    ∨ lane.stream.worker.lost = true

variable [Scalar α] (ops : Operators σ α) (memory : σ)

/-- **The stream of a lane once its queue is worked off.** -/
def settled (lane : Lane α) : Stream α := lane.stream.takeAll ops memory lane.queue

/-- **The answer of a lane at the end of a stage**, given or to come. -/
def forecast (stage : Stage α) (lane : Lane α) : Option StepError :=
  match lane.reply with
  | some reply => reply
  | none => Stream.forecast ops memory stage lane.queue lane.stream

theorem forecast_of_reply {lane : Lane α} (hr : lane.reply = none) (stage : Stage α) :
    lane.forecast ops memory stage = Stream.forecast ops memory stage lane.queue lane.stream := by
  rw [forecast, hr]

@[simp] theorem index_settled (lane : Lane α) :
    (lane.settled ops memory).index = lane.stream.index := Stream.index_takeAll ..

theorem settled_of_lost {lane : Lane α} (h : lane.Tidy) (hl : lane.stream.worker.lost = true) :
    lane.settled ops memory = lane.stream :=
  Stream.takeAll_of_lost ops memory h.1 hl _

theorem forecast_of_working {lane : Lane α} (h : lane.Working) (hr : lane.reply = none)
    (stage : Stage α) :
    lane.forecast ops memory stage = (lane.settled ops memory).answer stage := by
  rw [forecast_of_reply ops memory hr]
  exact Stream.forecast_of_isWork ops memory stage h _

/-- An answer that is there is the one that was forecast. -/
theorem forecast_of_answer? {lane : Lane α} (h : lane.Tidy) {stage : Stage α}
    {answer : Option StepError} (ha : lane.answer? stage = some answer) :
    lane.forecast ops memory stage = answer := by
  unfold answer? at ha
  unfold forecast
  cases hr : lane.reply with
  | some reply => rw [hr] at ha; exact Option.some.inj ha
  | none =>
    rw [hr] at ha
    cases hl : lane.stream.worker.lost with
    | false => simp [hl] at ha
    | true =>
      simp only [hl, if_true, Option.some.injEq] at ha
      rw [← ha]
      exact Stream.forecast_of_lost ops memory h.1 hl stage _

/-! ## Messages sent -/

/-- The lane once the issuing side has noted the grid it is used for. -/
def note (lane : Lane α) (id : GridId) : Lane α :=
  { lane with stream := { lane.stream with lastGrid := id } }

/-- The grid noted for a stream does not matter to its worker. -/
theorem settled_note (lane : Lane α) (id : GridId) :
    (lane.note id).settled ops memory = { lane.settled ops memory with lastGrid := id } := by
  obtain ⟨stream, queue, reply⟩ := lane
  induction queue generalizing stream with
  | nil => rfl
  | cons message queue ih =>
    cases message with
    | work slot op => exact ih (stream.take ops memory (.work slot op))
    | fence => exact ih stream.cleared

/-- Work sent to a lane that has a worker is done after what is there. -/
theorem settled_send {lane : Lane α} (h : lane.Tidy) (message : Message α) :
    (lane.send message).settled ops memory = (lane.settled ops memory).take ops memory message := by
  unfold send
  cases hl : lane.stream.worker.lost with
  | false => exact Stream.takeAll_append ops memory lane.stream lane.queue [message]
  | true =>
    rw [if_pos rfl, settled_of_lost ops memory h hl, Stream.take_of_lost ops memory h.1 hl]

theorem forecast_send_fence (stage : Stage α) (lane : Lane α) :
    (lane.send .fence).forecast ops memory stage = lane.forecast ops memory stage := by
  unfold send
  split
  · rfl
  · unfold forecast
    cases lane.reply with
    | some reply => rfl
    | none => exact Stream.forecast_append_fence ops memory stage lane.queue lane.stream

omit [Scalar α] in
theorem tidy_send {lane : Lane α} (h : lane.Tidy) (message : Message α) :
    (lane.send message).Tidy := by
  unfold send
  split
  · exact h
  · next hl => exact ⟨h.1, fun hl' => absurd hl' hl⟩

omit [Scalar α] in
theorem working_send {lane : Lane α} (h : lane.Working) {message : Message α}
    (hm : message.IsWork) : (lane.send message).Working := by
  unfold send
  split
  · exact h
  · intro message' hmem
    rcases List.mem_append.mp hmem with hmem | hmem
    · exact h message' hmem
    · exact List.mem_singleton.mp hmem ▸ hm

omit [Scalar α] in
/-- A lane not asked before is asked by sending the question. -/
theorem asked_send {lane : Lane α} (h : lane.Working) (hr : lane.reply = none) :
    (lane.send .fence).Asked := by
  unfold send
  split
  · next hl => exact .inr (.inr hl)
  · exact .inl ⟨hr, lane.queue, h, rfl⟩

omit [Scalar α] in
/-- **A lane that was asked and has answered has nothing left to do**, and its error is taken. -/
theorem quiet_of_answer? {lane : Lane α} (h : lane.Tidy) (ha : lane.Asked) {stage : Stage α}
    {answer : Option StepError} (hanswer : lane.answer? stage = some answer) :
    lane.queue = [] ∧ lane.stream.worker.failed = none := by
  rcases ha with ⟨hr, -⟩ | ⟨-, hq, hfailed⟩ | hl
  · unfold answer? at hanswer
    rw [hr] at hanswer
    cases hl : lane.stream.worker.lost with
    | false => simp [hl] at hanswer
    | true => exact ⟨h.2 hl, h.1 hl⟩
  · exact ⟨hq, hfailed⟩
  · exact ⟨h.2 hl, h.1 hl⟩

omit [Scalar α] in
/-- A lane that was asked and has no answer yet has its worker, and the question in its queue. -/
theorem queue_ne_nil_of_answer? {lane : Lane α} (ha : lane.Asked) {stage : Stage α}
    (hanswer : lane.answer? stage = none) :
    lane.stream.worker.lost = false ∧ lane.queue ≠ [] := by
  unfold answer? at hanswer
  cases hr : lane.reply with
  | some reply => rw [hr] at hanswer; cases hanswer
  | none =>
    have hl : lane.stream.worker.lost = false := by
      refine Bool.eq_false_iff.mpr fun hl => ?_
      simp [hr, hl] at hanswer
    refine ⟨hl, ?_⟩
    rcases ha with ⟨-, queue, -, hq⟩ | ⟨hr', -, -⟩ | hl'
    · simp [hq]
    · exact absurd hr hr'
    · rw [hl] at hl'
      cases hl'

/-! ## Moves of the worker -/

/-- **What a worker's move does**: it takes the front of the queue, and answers if that was the
question. -/
theorem advance?_cases {lane lane' : Lane α} {memory memory' : σ} {performed : Option (Nat × Op α)}
    (h : lane.advance? ops memory = some (lane', memory', performed)) :
    lane.stream.worker.lost = false ∧ ∃ message queue, lane.queue = message :: queue
      ∧ lane'.stream = lane.stream.take ops memory message
      ∧ ((message = .fence ∧ lane'.queue = queue
            ∧ lane'.reply = some lane.stream.worker.failed)
          ∨ (message.IsWork ∧ lane'.reply = lane.reply
            ∧ lane'.queue = if lane'.stream.worker.lost then [] else queue)) := by
  unfold advance? at h
  cases hl : lane.stream.worker.lost with
  | true => simp [hl] at h
  | false =>
    refine ⟨rfl, ?_⟩
    simp only [hl, Bool.false_eq_true, if_false] at h
    split at h
    · cases h
    · next rest hq =>
      simp only [Option.some.injEq, Prod.mk.injEq] at h
      obtain ⟨rfl, -, -⟩ := h
      exact ⟨.fence, rest, hq, rfl, .inl ⟨rfl, rfl, rfl⟩⟩
    · next slot op rest hq =>
      simp only [Option.some.injEq, Prod.mk.injEq] at h
      obtain ⟨rfl, -, -⟩ := h
      exact ⟨.work slot op, rest, hq, rfl, .inr ⟨trivial, rfl, rfl⟩⟩

section Moves

variable {ops} (hf : ops.Functional) {lane lane' : Lane α} {before after : σ}
  {performed : Option (Nat × Op α)}
  (h : lane.advance? ops before = some (lane', after, performed))

include h in
@[simp] theorem index_of_advance? : lane'.stream.index = lane.stream.index := by
  obtain ⟨-, message, queue, -, hst, -⟩ := advance?_cases ops h
  rw [hst, Stream.index_take]

include h in
theorem tidy_of_advance? (ht : lane.Tidy) : lane'.Tidy := by
  obtain ⟨hl, message, queue, -, hst, hcases⟩ := advance?_cases ops h
  refine ⟨hst ▸ Stream.tidy_take ops before ht.1 message, fun hl' => ?_⟩
  rcases hcases with ⟨rfl, -, -⟩ | ⟨-, -, hq⟩
  · rw [hst] at hl'
    exact absurd hl' (by simp [Stream.take, Stream.cleared, Worker.cleared, hl])
  · rw [hq, if_pos hl']

include h in
theorem working_of_advance? (hw : lane.Working) : lane'.Working ∧ lane'.reply = lane.reply := by
  obtain ⟨-, message, queue, hqueue, -, hcases⟩ := advance?_cases ops h
  rcases hcases with ⟨rfl, -, -⟩ | ⟨-, hr, hq⟩
  · exact (hw .fence (hqueue ▸ List.mem_cons_self)).elim
  · refine ⟨fun message' hmem => ?_, hr⟩
    rw [hq] at hmem
    split at hmem
    · exact absurd hmem List.not_mem_nil
    · exact hw message' (hqueue ▸ List.mem_cons_of_mem _ hmem)

include h in
/-- **A lane that has been asked keeps the question until it has answered.** -/
theorem asked_of_advance? (ha : lane.Asked) : lane'.Asked ∧ lane.reply = none := by
  obtain ⟨hl, message, queue, hqueue, hst, hcases⟩ := advance?_cases ops h
  rcases ha with ⟨hr, works, hworks, hq⟩ | ⟨-, hq, -⟩ | hlost
  · refine ⟨?_, hr⟩
    rw [hqueue] at hq
    rcases hcases with ⟨rfl, hq', hr'⟩ | ⟨hwork, hr', hq'⟩
    · -- the question is reached, so nothing stands behind it
      cases works with
      | nil =>
        obtain ⟨-, rfl⟩ := List.cons.inj hq
        exact .inr (.inl ⟨by simp [hr'], hq', by rw [hst]; rfl⟩)
      | cons work works =>
        obtain ⟨rfl, -⟩ := List.cons.inj hq
        exact (hworks _ List.mem_cons_self).elim
    · cases works with
      | nil =>
        obtain ⟨rfl, -⟩ := List.cons.inj hq
        exact hwork.elim
      | cons work works =>
        obtain ⟨-, rfl⟩ := List.cons.inj hq
        cases hl' : lane'.stream.worker.lost with
        | true => exact .inr (.inr hl')
        | false =>
          refine .inl ⟨hr'.trans hr, works, fun m hm => hworks m (List.mem_cons_of_mem _ hm), ?_⟩
          simpa [hl'] using hq'
  · rw [hq] at hqueue
    cases hqueue
  · rw [hl] at hlost
    cases hlost

include hf h in
/-- **A move of the worker leaves what the lane settles to.** -/
theorem settled_of_advance? (ht : lane.Tidy) :
    lane'.settled ops memory = lane.settled ops memory := by
  obtain ⟨-, message, queue, hqueue, hst, hcases⟩ := advance?_cases ops h
  rw [Stream.take_congr hf before memory] at hst
  have htake : lane.settled ops memory = lane'.stream.takeAll ops memory queue := by
    rw [settled, hqueue, hst]
    rfl
  rw [htake, settled]
  rcases hcases with ⟨-, hq, -⟩ | ⟨-, -, hq⟩
  · rw [hq]
  · rw [hq]
    split
    · next hl =>
      have ht' : lane'.stream.worker.Tidy := hst ▸ Stream.tidy_take ops memory ht.1 message
      rw [Stream.takeAll_of_lost ops memory ht' hl, Stream.takeAll_of_lost ops memory ht' hl]
    · rfl

include hf h in
/-- **A move of the worker leaves the answer that is forecast.** -/
theorem forecast_of_advance? (ht : lane.Tidy) (hr : lane.reply = none) (stage : Stage α) :
    lane'.forecast ops memory stage = lane.forecast ops memory stage := by
  obtain ⟨hl, message, queue, hqueue, hst, hcases⟩ := advance?_cases ops h
  rw [Stream.take_congr hf before memory] at hst
  rw [forecast_of_reply ops memory hr, hqueue]
  rcases hcases with ⟨rfl, -, hr'⟩ | ⟨hwork, hr', hq⟩
  · rw [forecast, hr', Stream.forecast, Stream.answer, hl]
    rfl
  · have hstep : Stream.forecast ops memory stage (message :: queue) lane.stream
        = Stream.forecast ops memory stage queue lane'.stream := by
      cases message with
      | work slot op => rw [hst]; rfl
      | fence => exact hwork.elim
    rw [hstep, forecast_of_reply ops memory (hr'.trans hr), hq]
    split
    · next hl' =>
      have ht' : lane'.stream.worker.Tidy := hst ▸ Stream.tidy_take ops memory ht.1 message
      exact (Stream.forecast_of_lost ops memory ht' hl' stage queue).symm
    · rfl

end Moves

end Lane

end MethodOfLines
