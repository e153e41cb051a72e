import MethodOfLines.Proofs.Blame
import MethodOfLines.Proofs.Calls
import MethodOfLines.Proofs.Finite
import MethodOfLines.Proofs.Lost

/-!
# Proofs/Evaluations — the rates a step evaluates, and what comes of them

`Stepper.evaluations` lists the evaluations of the right-hand side in a step, under a schedule, each
with its context, its outcome and the rates it left.  An evaluation has its own verdict, with or
without the search for values that are not finite (`Evaluation.verdict`), and what a worker makes of
it is that verdict (`Op.verdict_of_evaluation?`).

A verdict that is not `done` leaves its mark: the machine is **troubled** from then on
(`Machine.troubled_run`), and a troubled machine does not end well
(`Stepper.Ending.not_troubled`).  The other way round, an error of the right-hand side is the
verdict of an evaluation, and nothing was carried out on its stream after it
(`Machine.explained_run`).
-/

namespace MethodOfLines

variable {σ α : Type}

/-- **An evaluation of the right-hand side**, for the grid in a slot. -/
structure Evaluation (α : Type) where
  slot : Nat
  context : Context α
  outcome : Outcome
  /-- What it left in the buffer for the rates. -/
  output : Array α

namespace Evaluation

variable [Scalar α]

/-- **The verdict on an evaluation**, with or without the search for values that are not finite. -/
def verdict (search : Bool) (e : Evaluation α) : Verdict :=
  let wrap := StepError.rhsFailed e.context.grid.id e.context.stage
  match e.outcome, search with
  | .done, true =>
    match checkFinite e.context.points e.output with
    | .ok () => .done
    | .error reason => .failed (wrap reason)
  | outcome, _ => outcome.verdict wrap

/-- **The evaluation succeeds with a value that is not finite.** -/
def NotFinite (e : Evaluation α) : Prop :=
  e.outcome = .done ∧ ∃ x ∈ e.output, Scalar.isFinite x = false

instance (e : Evaluation α) : Decidable e.NotFinite := inferInstanceAs (Decidable (_ ∧ _))

variable {e : Evaluation α}

/-- The search finds nothing in rates that are finite. -/
theorem verdict_of_finite (h : ¬ e.NotFinite) (search : Bool) :
    e.verdict search = e.verdict false := by
  cases search with
  | false => rfl
  | true =>
    cases ho : e.outcome with
    | failed reason => simp only [verdict, ho]
    | crashed => simp only [verdict, ho]
    | done =>
      have hok : checkFinite e.context.points e.output = .ok () := by
        refine (checkFinite_eq_ok_iff e.context.grid.points_pos).mpr fun x hx => ?_
        exact Bool.of_not_eq_false fun hf => h ⟨ho, x, hx, hf⟩
      simp only [verdict, ho, hok]
      rfl

/-- The search does not pass rates that are not finite. -/
theorem NotFinite.verdict_ne (h : e.NotFinite) : e.verdict true ≠ .done := by
  obtain ⟨ho, x, hx, hf⟩ := h
  intro hd
  simp only [verdict, ho] at hd
  split at hd
  · next hok =>
    have hall := (checkFinite_eq_ok_iff e.context.grid.points_pos).mp hok x hx
    rw [hf] at hall
    cases hall
  · cases hd

/-- **An evaluation fails with its own error**, or the search finds a value that is not finite. -/
theorem verdict_eq_failed {search : Bool} {id : GridId} {n : Nat} {reason : EvalError}
    (h : e.verdict search = .failed (.rhsFailed id n reason)) :
    e.context.grid.id = id ∧ e.context.stage = n
      ∧ (e.outcome = .failed reason ∨ e.outcome = .done
        ∧ checkFinite e.context.points e.output = .error reason) := by
  cases ho : e.outcome with
  | crashed => simp only [verdict, ho, Outcome.verdict, reduceCtorEq] at h
  | failed reason' =>
    simp only [verdict, ho, Outcome.verdict, Verdict.failed.injEq, StepError.rhsFailed.injEq] at h
    obtain ⟨hid, hn, rfl⟩ := h
    exact ⟨hid, hn, .inl rfl⟩
  | done =>
    cases search with
    | false => simp only [verdict, ho, Outcome.verdict, reduceCtorEq] at h
    | true =>
      simp only [verdict, ho] at h
      split at h
      · cases h
      · next reason' hfound =>
        simp only [Verdict.failed.injEq, StepError.rhsFailed.injEq] at h
        obtain ⟨hid, hn, rfl⟩ := h
        exact ⟨hid, hn, .inr ⟨rfl, hfound⟩⟩

/-- **The first value that is not finite** is that of a field at a point. -/
structure FirstAt (e : Evaluation α) (field point : Nat) : Prop where
  field_lt : field < e.context.fields
  point_lt : point < e.context.points
  notFinite : ∃ x, e.output[field * e.context.points + point]? = some x
    ∧ Scalar.isFinite x = false
  finite : ∀ i < field * e.context.points + point, ∃ x, e.output[i]? = some x
    ∧ Scalar.isFinite x = true

/-- **What the search names is the first value that is not finite.** -/
theorem firstAt_of_checkFinite (hsize : e.output.size = e.context.points * e.context.fields)
    {field point : Nat} (h : checkFinite e.context.points e.output
      = .error (.nanDetected field (some point))) : e.FirstAt field point := by
  obtain ⟨i, x, hx, hbad, hbefore, hreason⟩ := checkFinite_eq_error h
  obtain ⟨rfl, hpoint⟩ := EvalError.nanDetected.inj hreason
  obtain rfl := Option.some.inj hpoint
  obtain ⟨hi, -⟩ := Array.getElem?_eq_some_iff.mp hx
  have hindex := Nat.div_add_mod' i e.context.points
  refine ⟨Nat.div_lt_of_lt_mul (hsize ▸ hi), Nat.mod_lt _ e.context.grid.points_pos, ⟨x, ?_, hbad⟩,
    fun j hj => ?_⟩
  · rwa [hindex]
  · rw [hindex] at hj
    have hget := Array.getElem?_eq_getElem (Nat.lt_trans hj hi)
    exact ⟨_, hget, hbefore j hj _ hget⟩

end Evaluation

/-! ## The evaluation of an operation -/

namespace Op

/-- The evaluation an operation makes, on the grid in a slot. -/
def evaluation? (ops : Operators σ α) (stream : StreamIndex) (slot : Nat) (g : Grid α)
    (memory : σ) : Op α → Option (Evaluation α)
  | .evaluateRhs call input output =>
    (g.functions.buffers.pair? input output).map fun pair =>
      let r := ops.rhs.evaluate (context stream call g) pair.1 pair.2 memory
      ⟨slot, context stream call g, r.outcome, r.buffer.toArray⟩
  | _ => none

variable [Scalar α] {ops : Operators σ α} {stream : StreamIndex} {params : Option (Params α)}
  {slot : Nat} {g : Grid α} {memory : σ} {op : Op α} {e : Evaluation α}

omit [Scalar α] in
theorem exists_of_evaluation? (h : op.evaluation? ops stream slot g memory = some e) :
    ∃ call input output, op = .evaluateRhs call input output ∧ e.slot = slot
      ∧ e.context = context stream call g
      ∧ e.output.size = g.functions.points * g.functions.fields := by
  cases op with
  | evaluateRhs call input output =>
    obtain ⟨pair, -, rfl⟩ := Option.map_eq_some_iff.mp h
    exact ⟨call, input, output, rfl, rfl, rfl, Vector.size_toArray _⟩
  | _ => cases h

/-- **An operation that evaluates the rates ends as the evaluation does.** -/
theorem verdict_of_evaluation? (h : op.evaluation? ops stream slot g memory = some e) :
    (op.execute ops stream params g memory).verdict = e.verdict ops.checkFinite := by
  cases op with
  | evaluateRhs call input output =>
    obtain ⟨pair, hpair, rfl⟩ := Option.map_eq_some_iff.mp h
    simp only [execute, executeRhs, hpair]
    rfl
  | _ => cases h

/-- **Only evaluations fail with an error of the right-hand side.** -/
theorem exists_evaluation?_of_rhsFailed {id : GridId} {n : Nat} {reason : EvalError}
    (h : (op.execute ops stream params g memory).verdict = .failed (.rhsFailed id n reason))
    (slot : Nat) : ∃ e, op.evaluation? ops stream slot g memory = some e := by
  cases op with
  | syncParams p => cases h
  | launch call kernel stageBuffer work =>
    obtain ⟨_, he⟩ := exists_dispatch_of_executeLaunch h
    cases he
  | applyRadiation call input output =>
    simp only [execute, executeRadiation] at h
    split at h
    · cases h
    · obtain ⟨_, he⟩ := Outcome.verdict_eq_failed h
      cases he
  | applyBoundary call target =>
    obtain ⟨_, he⟩ := Outcome.verdict_eq_failed h
    cases he
  | evaluateRhs call input output =>
    simp only [execute, executeRhs] at h
    split at h
    · cases h
    · next x out hpair => exact ⟨_, congrArg (Option.map _) hpair⟩

end Op

/-! ## The evaluations of a run -/

/-- The evaluation a worker makes in its next turn, unless it skips what it is given. -/
def Worker.evaluation? (ops : Operators σ α) (w : Worker α) (slot : Nat) (op : Op α) (memory : σ) :
    Option (Evaluation α) :=
  if w.status = .done then (w.grid? slot).bind (op.evaluation? ops w.stream slot · memory) else none

/-- The evaluation in the next move of a lane. -/
def Lane.evaluation? (ops : Operators σ α) (lane : Lane α) (memory : σ) : Option (Evaluation α) :=
  match lane.queue with
  | .work slot op :: _ => lane.stream.worker.evaluation? ops slot op memory
  | _ => none

namespace Machine

/-- The evaluation in a move. -/
def evaluation? (ops : Operators σ α) (m : Machine σ α) : Actor → Option (Evaluation α)
  | .issuer => none
  | .worker t => (m.lanes.find? (·.stream.index = t)).bind (·.evaluation? ops m.memory)

/-- **An evaluation is made in carrying out an upcoming operation.** -/
theorem exists_upcoming_of_evaluation? {ops : Operators σ α} {m : Machine σ α} {actor : Actor}
    {e : Evaluation α} (h : m.evaluation? ops actor = some e) :
    ∃ lane op g, actor = .worker lane.stream.index
      ∧ m.lanes.find? (·.stream.index = lane.stream.index) = some lane ∧ m.Upcoming lane e.slot op
      ∧ lane.stream.worker.grid? e.slot = some g
      ∧ op.evaluation? ops lane.stream.index e.slot g m.memory = some e := by
  cases actor with
  | issuer => cases h
  | worker t =>
    obtain ⟨lane, hfind, he⟩ := Option.bind_eq_some_iff.mp h
    obtain ⟨hmem, rfl⟩ := mem_of_lane? hfind
    unfold Lane.evaluation? at he
    split at he
    · next slot op rest hq =>
      rw [Worker.evaluation?, Option.ite_none_right_eq_some] at he
      obtain ⟨hs, he⟩ := he
      obtain ⟨g, hg, he⟩ := Option.bind_eq_some_iff.mp he
      obtain ⟨_, _, _, -, rfl, -⟩ := Op.exists_of_evaluation? he
      exact ⟨lane, op, g, rfl, hfind, ⟨hmem, ⟨rest, hq⟩, hs⟩, hg, he⟩
    · cases he

variable [Scalar α]

/-- **The evaluations of a run**, in order. -/
def evaluations (ops : Operators σ α) (d : Discipline) :
    Machine σ α → Schedule → List (Evaluation α)
  | _, [] => []
  | m, actor :: schedule =>
    (m.evaluation? ops actor).toList ++ evaluations ops d ((m.move? ops d actor).getD m) schedule

variable {ops : Operators σ α} {d : Discipline} {m m' : Machine σ α}

theorem evaluations_append (schedule schedule' : Schedule) :
    ∀ m : Machine σ α, m.evaluations ops d (schedule ++ schedule')
      = m.evaluations ops d schedule ++ (m.run ops d schedule).evaluations ops d schedule' := by
  induction schedule with
  | nil => exact fun _ => rfl
  | cons actor schedule ih =>
    intro m
    rw [List.cons_append, evaluations, evaluations, ih, List.append_assoc]
    rfl

/-- Every evaluation of a run is made in one of its moves. -/
theorem exists_of_mem_evaluations {e : Evaluation α} {schedule : Schedule} :
    ∀ {m : Machine σ α}, e ∈ m.evaluations ops d schedule →
      ∃ early actor, (m.run ops d early).evaluation? ops actor = some e := by
  induction schedule with
  | nil => exact fun h => absurd h List.not_mem_nil
  | cons actor schedule ih =>
    intro m h
    rcases List.mem_append.mp h with h | h
    · exact ⟨[], actor, Option.mem_toList.mp h⟩
    · obtain ⟨early, actor', he⟩ := ih h
      exact ⟨actor :: early, actor', he⟩

/-- Where there is an evaluation, there is a move. -/
theorem evaluation?_of_move?_eq_none {actor : Actor} (h : m.move? ops d actor = none) :
    m.evaluation? ops actor = none := by
  by_contra hne
  obtain ⟨e, he⟩ := Option.ne_none_iff_exists'.mp hne
  obtain ⟨lane, op, g, rfl, hfind, hup, -⟩ := exists_upcoming_of_evaluation? he
  obtain ⟨rest, hq⟩ := hup.queue
  obtain ⟨hl, -⟩ := Worker.status_eq_done.mp hup.status
  simp [move?, worker?, hfind, Lane.advance?, hl, hq] at h

/-- **What every move keeps of a machine and the evaluations so far holds along every schedule.** -/
theorem evaluations_invariant {I : Machine σ α → List (Evaluation α) → Prop}
    (hstep : ∀ {m m' es actor}, I m es → m.move? ops d actor = some m' →
      I m' (es ++ (m.evaluation? ops actor).toList)) (schedule : Schedule) :
    ∀ {m : Machine σ α} {es}, I m es →
      I (m.run ops d schedule) (es ++ m.evaluations ops d schedule) := by
  induction schedule with
  | nil =>
    intro m es h
    rwa [evaluations, List.append_nil]
  | cons actor schedule ih =>
    intro m es h
    rw [run_cons, evaluations, ← List.append_assoc]
    cases hmove : m.move? ops d actor with
    | none =>
      rw [evaluation?_of_move?_eq_none hmove, Option.toList_none, List.append_nil]
      exact ih h
    | some m' => exact ih (hstep h hmove)

/-! ## Trouble -/

omit [Scalar α] in
/-- **What the issuing side does to the lanes**: the workers are left alone, and replies are dropped
only at the end of a stage. -/
theorem exists_map_of_issuer? (h : m.issuer? d = some m') :
    ∃ f : Lane α → Lane α, m'.lanes = m.lanes.map f ∧ m'.performed = m.performed ∧ ∀ lane,
      (f lane).stream.worker = lane.stream.worker
        ∧ ((f lane).reply = lane.reply
          ∨ (f lane).reply = none ∧ m.waiting = none ∧ m.pending ≠ []) := by
  have hsend : ∀ (lane : Lane α) message, (lane.send message).reply = lane.reply := by
    intro lane message
    unfold Lane.send
    split <;> rfl
  rcases issuer?_cases h with ⟨b, call, op, rest, -, -, rfl⟩ | ⟨stage, rest, hw, hp, rfl⟩ |
    ⟨stage, s, others, -, -, rfl⟩ | ⟨stage, answer, -, -, -, rfl⟩
  · refine ⟨_, rfl, rfl, fun lane => ?_⟩
    split
    · exact ⟨by rw [stream_send], .inl (hsend ..)⟩
    · exact ⟨rfl, .inl rfl⟩
  · exact ⟨_, rfl, rfl, fun lane => ⟨rfl, .inr ⟨rfl, hw, by simp [hp]⟩⟩⟩
  · refine ⟨_, rfl, rfl, fun lane => ?_⟩
    split
    · exact ⟨by rw [stream_send], .inl (hsend ..)⟩
    · exact ⟨rfl, .inl rfl⟩
  · exact ⟨id, (List.map_id _).symm, rfl, fun lane => ⟨rfl, .inl rfl⟩⟩

omit [Scalar α] in
/-- **Something is wrong on a stream**: its worker has failed or is gone, or has answered so. -/
def Troubled (m : Machine σ α) : Prop :=
  ∃ lane ∈ m.lanes, lane.stream.worker.status ≠ .done ∨ lane.reply.join ≠ none

variable {origin : StreamIndex → Worker α} {home : Nat → StreamIndex}
  {requests before current : List (Request α)}

/-- **Trouble stays.** -/
theorem Troubled.of_move? (h : m.Follows ops origin home requests before current)
    (ht : m.Troubled) {actor : Actor} (hmove : m.move? ops d actor = some m') : m'.Troubled := by
  obtain ⟨old, hold, htrouble⟩ := ht
  cases actor with
  | issuer =>
    obtain ⟨f, hlanes, -, hf⟩ := exists_map_of_issuer? hmove
    refine ⟨f old, hlanes ▸ List.mem_map_of_mem hold, ?_⟩
    obtain ⟨hworker, hr | ⟨-, hw, hp⟩⟩ := hf old
    · rwa [hworker, hr]
    · -- at the end of a stage nobody has answered with an error
      rw [hworker]
      exact .inl (htrouble.resolve_right fun hne => hne (h.calm hw hp old hold))
  | worker t =>
    obtain ⟨lane, lane', after, performed, hlane, hadv, rfl⟩ := worker?_cases hmove
    obtain ⟨hmem, rfl⟩ := mem_of_lane? hlane
    by_cases hi : old.stream.index = lane.stream.index
    · obtain rfl := eq_of_index h.sound.nodup hold hmem hi
      refine ⟨lane', List.mem_map.mpr ⟨old, hold, if_pos rfl⟩, ?_⟩
      obtain ⟨hl, message, queue, hq, -⟩ := Lane.advance?_cases ops hadv
      obtain ⟨past, turns, hrec, -⟩ := h.lanes old hold
      -- a worker that answered with an error has nothing left to do
      have hs := htrouble.resolve_right fun hne => hne (hrec.worker_eq (.inl (by simp [hq]))).2
      rcases Lane.performed_of_advance? hadv with ⟨_, -, -, -, hr, -⟩ | ⟨slot, op, _, -, hst, -⟩
      · refine .inr fun hj => hs (Worker.status_eq_done.mpr ⟨hl, ?_⟩)
        rwa [hr, Option.join_some] at hj
      · rw [hst, Worker.perform_of_status_ne ops hs]
        exact .inl hs
    · exact ⟨old, List.mem_map.mpr ⟨old, hold, if_neg hi⟩, htrouble⟩

/-- **An evaluation that is not done makes trouble.** -/
theorem troubled_of_evaluation? (hm : m.Sound) {actor : Actor} {e : Evaluation α}
    (he : m.evaluation? ops actor = some e) (hv : e.verdict ops.checkFinite ≠ .done)
    (hmove : m.move? ops d actor = some m') : m'.Troubled := by
  obtain ⟨lane, op, g, rfl, -, hup, hg, heval⟩ := exists_upcoming_of_evaluation? he
  obtain ⟨lane', hnext, hst⟩ := worker?_of_upcoming ops hm hup
  obtain rfl := Option.some.inj (hmove.symm.trans hnext)
  obtain ⟨call, input, output, rfl, -⟩ := Op.exists_of_evaluation? heval
  have hindex : lane'.stream.index = lane.stream.index := by
    rw [hst]
    exact Worker.stream_perform ..
  refine ⟨lane', List.mem_map.mpr ⟨lane, hup.mem, if_pos hindex.symm⟩, .inl ?_⟩
  rw [hst, Worker.perform_work ops hup.status hg (fun _ => by simp),
    Worker.status_settle hup.status]
  exact (Op.verdict_of_evaluation? heval).trans_ne hv

/-- **After an evaluation that was not done a machine is troubled**, under every schedule. -/
theorem troubled_run (ho : Request.Orderly home requests)
    (h : m.Follows ops origin home requests before current) (schedule : Schedule)
    {e : Evaluation α} (he : e ∈ m.evaluations ops .stop schedule)
    (hv : e.verdict ops.checkFinite ≠ .done) : (m.run ops .stop schedule).Troubled := by
  refine (evaluations_invariant
    (I := fun m es => (∃ before current, m.Follows ops origin home requests before current)
      ∧ ∀ e ∈ es, e.verdict ops.checkFinite ≠ .done → m.Troubled)
    (fun hI hmove => ?_) schedule ⟨⟨before, current, h⟩, fun e he => absurd he List.not_mem_nil⟩).2
    e he hv
  obtain ⟨⟨_, _, h⟩, ht⟩ := hI
  refine ⟨follows_of_move? ho h hmove, fun e he hv => ?_⟩
  rcases List.mem_append.mp he with he | he
  · exact (ht e he hv).of_move? h hmove
  · exact troubled_of_evaluation? h.sound (Option.mem_toList.mp he) hv hmove

end Machine

/-! ## Errors of the right-hand side -/

variable [Scalar α] {ops : Operators σ α}

/-- A worker that fails with an error of the right-hand side has just evaluated it. -/
theorem Worker.exists_evaluation?_of_failed {w : Worker α} (hs : w.status = .done) {slot : Nat}
    {op : Op α} {memory : σ} {id : GridId} {n : Nat} {reason : EvalError}
    (hf : (w.perform ops slot op memory).1.failed = some (.rhsFailed id n reason)) :
    ∃ e, w.evaluation? ops slot op memory = some e
      ∧ e.verdict ops.checkFinite = .failed (.rhsFailed id n reason)
      ∧ ∃ call input output, call.number = e.context.stage
        ∧ (slot, op) = (e.slot, .evaluateRhs call input output) := by
  obtain ⟨g, hg, -, hv⟩ := exists_verdict_of_failed ops hs hf
  obtain ⟨e, he⟩ := Op.exists_evaluation?_of_rhsFailed hv slot
  obtain ⟨call, input, output, rfl, rfl, hctx, -⟩ := Op.exists_of_evaluation? he
  refine ⟨e, ?_, (Op.verdict_of_evaluation? he).symm.trans hv, call, input, output, ?_, rfl⟩
  · rw [evaluation?, if_pos hs, hg]
    exact he
  · rw [hctx]
    rfl

namespace Lane

/-- **An error of the right-hand side is explained**: a worker that failed with it has it from one
of these evaluations, and that was the last operation carried out on its stream. -/
def Explained (search : Bool) (es : List (Evaluation α)) (last : Option (Nat × Op α))
    (lane : Lane α) : Prop :=
  ∀ id n reason, lane.stream.worker.failed = some (.rhsFailed id n reason)
      ∨ lane.reply = some (some (.rhsFailed id n reason)) →
    ∃ e ∈ es, e.verdict search = .failed (.rhsFailed id n reason)
      ∧ ∃ call input output, call.number = e.context.stage
        ∧ last = some (e.slot, .evaluateRhs call input output)

variable {lane lane' : Lane α} {search : Bool} {es : List (Evaluation α)}
  {last : Option (Nat × Op α)}

/-- Later evaluations change no explanation. -/
theorem Explained.mono (h : lane.Explained search es last) (more : List (Evaluation α)) :
    lane.Explained search (es ++ more) last := by
  intro id n reason hfail
  obtain ⟨e, he, hexplains⟩ := h id n reason hfail
  exact ⟨e, List.mem_append_left _ he, hexplains⟩

/-- **A move of a worker leaves its errors explained.** -/
theorem Explained.advance (h : lane.Explained ops.checkFinite es last)
    (hj : lane.queue ≠ [] → lane.reply.join = none) {memory memory' : σ}
    {performed : Option (Nat × Op α)}
    (hadv : lane.advance? ops memory = some (lane', memory', performed)) :
    lane'.Explained ops.checkFinite (es ++ (lane.evaluation? ops memory).toList)
      (performed.or last) := by
  intro id n reason hfail
  rcases performed_of_advance? hadv with ⟨_, -, hst, -, hr, -, rfl⟩ |
    ⟨slot, op, queue, hq, hst, hr, -, -, rfl⟩
  · -- the worker answers with the error it has
    refine h.mono _ id n reason (.inl ?_)
    rcases hfail with hf | hf
    · rw [hst] at hf
      cases hf
    · exact Option.some.inj (hr.symm.trans hf)
  · have hf : (lane.stream.worker.perform ops slot op memory).1.failed
        = some (.rhsFailed id n reason) := by
      rcases hfail with hf | hf
      · rwa [hst] at hf
      · have hnone := hj (by simp [hq])
        rw [← hr, hf] at hnone
        cases hnone
    by_cases hs : lane.stream.worker.status = .done
    · obtain ⟨e, he, hv, call, input, output, hn, hop⟩ := Worker.exists_evaluation?_of_failed hs hf
      refine ⟨e, List.mem_append_right _ ?_, hv, call, input, output, hn, ?_⟩
      · rw [evaluation?, hq]
        exact Option.mem_toList.mpr he
      · rw [if_pos hs, hop]
        rfl
    · rw [Worker.perform_of_status_ne ops hs] at hf
      rw [if_neg hs]
      exact h.mono _ id n reason (.inl hf)

end Lane

namespace Machine

variable {d : Discipline} {m m' : Machine σ α} {origin : StreamIndex → Worker α}
  {home : Nat → StreamIndex} {requests before current : List (Request α)}

/-- **The errors of the right-hand side are explained** on every stream. -/
def Explained (home : Nat → StreamIndex) (search : Bool) (es : List (Evaluation α))
    (m : Machine σ α) : Prop :=
  ∀ lane ∈ m.lanes, lane.Explained search es
    (m.performed.filter fun x => home x.1 = lane.stream.index).getLast?

/-- What waits on a stream is for one of its slots. -/
theorem Follows.home_of_mem_work (ho : Request.Orderly home requests)
    (h : m.Follows ops origin home requests before current) {lane : Lane α} (hmem : lane ∈ m.lanes)
    {x : Nat × Op α} (hx : x ∈ lane.work) : home x.1 = lane.stream.index := by
  obtain ⟨past, turns, hrec, -⟩ := h.lanes lane hmem
  obtain ⟨b, call, hsubmit, hb, hslot⟩ :=
    Request.mem_workFor.mp (hrec.begun.subset (List.mem_append_right _ hx))
  rw [← hslot, ho.home (h.answers.isPrefix.subset (List.mem_append_right _ hsubmit)), hb]

theorem explained_issuer? {es : List (Evaluation α)} {search : Bool}
    (hx : m.Explained home search es) (hmove : m.issuer? d = some m') :
    m'.Explained home search es := by
  obtain ⟨f, hlanes, hperformed, hf⟩ := exists_map_of_issuer? hmove
  intro lane' hmem'
  obtain ⟨lane, hmem, rfl⟩ := List.mem_map.mp (hlanes ▸ hmem')
  obtain ⟨hworker, hreply⟩ := hf lane
  have hindex : (f lane).stream.index = lane.stream.index := congrArg Worker.stream hworker
  intro id n reason hfail
  rw [hperformed, hindex]
  refine hx lane hmem id n reason (hfail.imp (fun hf => hworker ▸ hf) fun hr => ?_)
  rcases hreply with hsame | ⟨hnone, -⟩
  · exact hsame ▸ hr
  · rw [hnone] at hr
    cases hr

theorem explained_worker? (ho : Request.Orderly home requests)
    (h : m.Follows ops origin home requests before current) {es : List (Evaluation α)}
    (hx : m.Explained home ops.checkFinite es) {t : StreamIndex}
    (hmove : m.worker? ops t = some m') :
    m'.Explained home ops.checkFinite (es ++ (m.evaluation? ops (.worker t)).toList) := by
  obtain ⟨lane, lane', after, performed, hlane, hadv, rfl⟩ := worker?_cases hmove
  have heval : m.evaluation? ops (.worker t) = lane.evaluation? ops m.memory := by
    rw [evaluation?, hlane, Option.bind_some]
  obtain ⟨hmem, rfl⟩ := mem_of_lane? hlane
  have hhome : ∀ x ∈ performed.toList, home x.1 = lane.stream.index := fun x hx =>
    h.home_of_mem_work ho hmem (Lane.mem_work_of_advance? hadv (Option.mem_toList.mp hx))
  rw [heval]
  refine forall_replace (fun _ _ _ => ?_) fun old hold hne => ?_
  · have hnew : (performed.toList.filter fun x => home x.1 = lane.stream.index).getLast?
        = performed := by
      rw [List.filter_eq_self.mpr fun x hx => by simpa using hhome x hx]
      cases performed <;> rfl
    rw [Lane.index_of_advance? hadv, List.filter_append, List.getLast?_append, hnew]
    obtain ⟨past, turns, hrec, -⟩ := h.lanes lane hmem
    exact (hx lane hmem).advance (fun hq => (hrec.worker_eq (.inl hq)).2) hadv
  · have hnone : (performed.toList.filter fun x => home x.1 = old.stream.index) = [] :=
      List.filter_eq_nil_iff.mpr fun x hx => by simpa [hhome x hx] using Ne.symm hne
    rw [List.filter_append, hnone, List.append_nil]
    exact (hx old hold).mono _

/-- **Under every schedule the errors of the right-hand side are explained.** -/
theorem explained_run (ho : Request.Orderly home requests)
    (h : m.Follows ops origin home requests before current)
    (hx : m.Explained home ops.checkFinite []) (schedule : Schedule) :
    (m.run ops .stop schedule).Explained home ops.checkFinite
      (m.evaluations ops .stop schedule) := by
  refine (evaluations_invariant
    (I := fun m es => (∃ before current, m.Follows ops origin home requests before current)
      ∧ m.Explained home ops.checkFinite es) (fun {_ _ _ actor} hI hmove => ?_) schedule
    ⟨⟨before, current, h⟩, hx⟩).2
  obtain ⟨⟨_, _, h⟩, hx⟩ := hI
  refine ⟨follows_of_move? ho h hmove, ?_⟩
  cases actor with
  | issuer => exact fun lane hmem => (explained_issuer? hx hmove lane hmem).mono []
  | worker t => exact explained_worker? ho h hx hmove

end Machine

/-! ## The order of a row -/

omit [Scalar α] in
/-- The second operation does not evaluate the rates of a stage whose kernel is the first. -/
def Op.RatesFirst (op op' : Op α) : Prop :=
  ∀ {call kernel buffer work call' input output}, op = .launch call kernel buffer work →
    op' = .evaluateRhs call' input output → call.number ≠ call'.number

omit [Scalar α] in
theorem Binding.pairwise_round (b : Binding α) (blockSize : Nat)
    (policy : Descriptor α → BoundaryPolicy) (stage : Stage α) (call : StageCall α) :
    (b.round blockSize policy stage call).Pairwise (·.2.RatesFirst ·.2) := by
  rw [round, List.pairwise_map, row]
  cases b.launch blockSize stage <;> cases (policy b.descriptor).afterRhs <;>
    cases (policy b.descriptor).afterStage <;>
    simp [Op.RatesFirst, Op.sync, Op.rates, Op.radiation, Op.kernel, Op.boundary]

namespace Stepper

variable {s : Stepper σ α} {clock : Clock α} {grids : List (Grid α)} {memory : σ}

/-- **Rates are evaluated before they are used**, in the work of every slot. -/
theorem pairwise_flatMap_round (b : Binding α) :
    (s.plan.stages.flatMap fun stage => b.round s.blockSize s.policyOf stage
      (callAt clock stage)).Pairwise (·.2.RatesFirst ·.2) := by
  have hnumber : ∀ {stage x n}, x ∈ b.round s.blockSize s.policyOf stage (callAt clock stage) →
      x.2.number? = some n → n = stage.number := by
    intro stage x n hx hn
    obtain ⟨op, hop, rfl⟩ := List.mem_map.mp hx
    rcases List.mem_cons.mp hop with rfl | hop
    · cases hn
    · exact Option.some.inj (hn.symm.trans (Binding.number?_of_mem_row hop))
  refine List.pairwise_flatMap.mpr ⟨fun stage _ => b.pairwise_round .., s.pairwise_stages.imp ?_⟩
  intro stage stage' hlt x hx y hy call kernel buffer work call' input output hlaunch hrates
  have hn := hnumber hx (by rw [hlaunch]; rfl)
  have hn' := hnumber hy (by rw [hrates]; rfl)
  omega

/-- Before the rates of a slot are evaluated its kernel of that stage does not run. -/
theorem number_ne_of_launch {e : Nat × Grid α} (he : e ∈ Pool.slots grids) {l : List (Nat × Op α)}
    {call : StageCall α} {input output : Role}
    (h : l ++ [(e.1, .evaluateRhs call input output)]
      <+: Request.workFor (Pool.bind s.streams e).stream (s.agenda clock grids))
    {call' : StageCall α} {kernel : StageKernel α} {buffer : Role} {work : Launch}
    (hmem : (e.1, .launch call' kernel buffer work) ∈ l) : call'.number ≠ call.number := by
  have hslot := h.filter fun x => decide (x.1 = e.1)
  rw [filter_workFor_agenda he, List.filter_append] at hslot
  have hpairwise := (pairwise_flatMap_round _).sublist hslot.sublist
  exact (List.pairwise_append.mp hpairwise).2.2 _ (List.mem_filter.mpr ⟨hmem, by simp⟩)
    (e.1, .evaluateRhs call input output) (List.mem_filter.mpr ⟨List.mem_cons_self, by simp⟩)
    rfl rfl

/-! ## The evaluations of a step -/

variable (s clock grids memory) in
/-- **The evaluations of a step** under a schedule, in order. -/
def evaluations (schedule : Schedule) : List (Evaluation α) :=
  if s.poisoned then []
  else (Machine.start s.streams grids memory (s.requests clock grids memory)).evaluations
    s.operators .stop schedule

theorem evaluations_isPrefix (s : Stepper σ α) (clock : Clock α) (grids : List (Grid α))
    (memory : σ) (schedule more : Schedule) : s.evaluations clock grids memory schedule
      <+: s.evaluations clock grids memory (schedule ++ more) := by
  rw [evaluations, evaluations]
  split
  · exact List.prefix_rfl
  · rw [Machine.evaluations_append]
    exact List.prefix_append _ _

variable {schedule : Schedule} {a : Advance σ α}

/-- **An evaluation is for the grid in its slot**, and leaves as many rates as the grid has
values. -/
theorem exists_grid_of_mem_evaluations {e : Evaluation α}
    (he : e ∈ s.evaluations clock grids memory schedule) :
    ∃ g, grids[e.slot]? = some g ∧ e.context.grid = g.descriptor
      ∧ e.context.fields = g.functions.fields
      ∧ e.output.size = g.functions.points * g.functions.fields := by
  rw [evaluations, List.mem_ite_nil_left] at he
  obtain ⟨early, actor, he⟩ := Machine.exists_of_mem_evaluations he.2
  obtain ⟨_, _, hfollows⟩ := s.follows_machine clock grids memory early
  obtain ⟨lane, op, g, -, -, hup, hg, heval⟩ := Machine.exists_upcoming_of_evaluation? he
  obtain ⟨_, -, x, hx, -, hslot, ⟨g', hg', buffers, rfl⟩, -⟩ :=
    exists_place_of_upcoming hfollows hup
  obtain rfl := Option.some.inj (hg.symm.trans hg')
  obtain ⟨call, _, _, -, -, hctx, hsize⟩ := Op.exists_of_evaluation? heval
  exact ⟨x.2, hslot ▸ Pool.mem_slots.mp hx, by rw [hctx]; rfl, by rw [hctx]; rfl, hsize⟩

/-- **In a step that succeeds every evaluation was done.** -/
theorem verdict_of_ok (h : s.stepUnder clock grids memory schedule = some a) {report : Report α}
    (hok : a.result = .ok report) {e : Evaluation α}
    (he : e ∈ s.evaluations clock grids memory schedule) :
    e.verdict s.operators.checkFinite = .done := by
  rw [evaluations, List.mem_ite_nil_left] at he
  obtain ⟨hp, he⟩ := he
  rw [stepUnder_eq hp, Option.ite_none_right_eq_some] at h
  obtain ⟨hfinished, ha⟩ := h
  obtain rfl := Option.some.inj ha
  obtain ⟨before, current, hending⟩ := exists_ending_machine hfinished
  by_contra hv
  obtain ⟨lane, hmem, htrouble⟩ := Machine.troubled_run (s.orderly_requests clock grids memory)
    (Machine.follows_start s.streams grids memory stream_mem_indices) schedule he hv
  obtain ⟨hs, hj⟩ := hending.status_of_ok hok lane hmem
  exact htrouble.elim (fun hne => hne hs) fun hne => hne hj

/-- The errors of a new machine are explained: there are none. -/
theorem explained_start (search : Bool) : (Machine.start s.streams grids memory
    (s.requests clock grids memory)).Explained (s.home grids) search [] := by
  intro lane hmem id n reason hfail
  obtain ⟨hworker, -, hreply⟩ := Machine.lane_of_mem_start hmem
  rcases hfail with hf | hr
  · rw [hworker] at hf
    cases hf
  · rw [hreply] at hr
    cases hr

/-- **What was carried out on a stream up to an evaluation ran no kernel on its rates.** -/
theorem number_ne_of_getLast? {m : Machine σ α} {before current : List (Request α)}
    (h : m.Follows s.operators (Worker.fresh s.streams grids) (s.home grids)
      (s.requests clock grids memory) before current) {t : StreamIndex} {slot : Nat} {g : Grid α}
    (hg : grids[slot]? = some g) {call : StageCall α} {input output : Role}
    (hlast : (m.performed.filter fun x => s.home grids x.1 = t).getLast?
      = some (slot, .evaluateRhs call input output))
    {call' : StageCall α} {kernel : StageKernel α} {buffer : Role} {work : Launch}
    (hmem : (slot, .launch call' kernel buffer work) ∈ m.performed) :
    call'.number ≠ call.number := by
  have he : (slot, g) ∈ Pool.slots grids := Pool.mem_slots.mpr hg
  obtain ⟨l, hl⟩ := List.getLast?_eq_some_iff.mp hlast
  have ht : s.home grids slot = t := by
    have hrates : (slot, Op.evaluateRhs call input output) ∈ l ++ [(slot, _)] :=
      List.mem_append_right _ List.mem_cons_self
    rw [← hl] at hrates
    exact of_decide_eq_true (List.mem_filter.mp hrates).2
  obtain rfl : (Pool.bind s.streams (slot, g)).stream = t := (home_of_mem he).symm.trans ht
  have hbegun := h.filter_performed_isPrefix (s.orderly_requests clock grids memory)
    (Pool.bind s.streams (slot, g)).stream
  rw [hl, Request.workFor_append] at hbegun
  have hlaunch : (slot, Op.launch call' kernel buffer work)
      ∈ l ++ [(slot, .evaluateRhs call input output)] := by
    rw [← hl]
    exact List.mem_filter.mpr ⟨hmem, decide_eq_true ht⟩
  have hbefore := (List.mem_append.mp hlaunch).resolve_right fun hx => by
    cases List.mem_singleton.mp hx
  exact number_ne_of_launch he (hbegun.trans (h.isPrefix_agenda _)) hbefore

/-- **An error of the right-hand side is the verdict on an evaluation**, and the kernel that would
have used its rates did not run. -/
theorem exists_evaluation_of_rhsFailed (hp : s.poisoned = false)
    (h : s.stepUnder clock grids memory schedule = some a) {id : GridId} {n : Nat}
    {reason : EvalError} (herror : a.result = .error (.rhsFailed id n reason)) :
    ∃ e ∈ s.evaluations clock grids memory schedule,
      e.verdict s.operators.checkFinite = .failed (.rhsFailed id n reason)
        ∧ ∀ {call kernel buffer work},
          (e.slot, .launch call kernel buffer work) ∈ s.carriedOut clock grids memory schedule →
          call.number ≠ n := by
  have hpoisoned : ¬ s.poisoned = true := by simp [hp]
  rcases refusal_or_blames hpoisoned h herror with ⟨_, he, -⟩ | hblames
  · cases he
  · cases hblames with
    | answered hmem hr =>
      obtain ⟨e, he, hv, call, input, output, hstage, hlast⟩ :=
        Machine.explained_run (s.orderly_requests clock grids memory)
          (Machine.follows_start s.streams grids memory stream_mem_indices) (explained_start _)
          schedule _ hmem id n reason (.inr hr)
      have he' : e ∈ s.evaluations clock grids memory schedule := by
        rwa [evaluations, if_neg hpoisoned]
      obtain ⟨g, hg, -⟩ := exists_grid_of_mem_evaluations he'
      obtain ⟨_, _, hfollows⟩ := s.follows_machine clock grids memory schedule
      refine ⟨e, he', hv, fun hlaunch => ?_⟩
      rw [carriedOut, if_neg hpoisoned] at hlaunch
      rw [← (Evaluation.verdict_eq_failed hv).2.1, ← hstage]
      exact number_ne_of_getLast? hfollows hg hlast hlaunch

end Stepper

end MethodOfLines
