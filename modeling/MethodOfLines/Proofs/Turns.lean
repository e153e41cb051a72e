import Mathlib.Data.List.Chain
import MethodOfLines.Proofs.Lane

/-!
# Proofs/Turns — the work sent to a stream, and the turns its worker takes

Collaborators may remember here, and may crash.  What a worker is given to remember then depends on
what the other streams do, but what it makes of it is its own: a worker is where its **turns** have
taken it, each an operation with the memory it found (`Worker.after`).  Until something goes wrong
every operation is carried out, and none afterwards, so what was carried out is a beginning of what
was sent (`Worker.carried_isPrefix`).

Requests that go through the stages in order (`Request.Orderly`) send an operation between the
fences of its own stage.
-/

namespace MethodOfLines

variable {σ α : Type}

/-! ## Work for a stream -/

namespace Op

/-- The stage an operation belongs to; parameters are installed for any. -/
def number? : Op α → Option Nat
  | .syncParams _ => none
  | .evaluateRhs call _ _ | .applyRadiation call _ _ | .launch call _ _ _ | .applyBoundary call _ =>
    some call.number

end Op

namespace Request

/-- The stage a request belongs to. -/
def number : Request α → Nat
  | .submit _ call _ => call.number
  | .fence stage => stage.number

/-- The work a request brings to a stream. -/
def workFor? (t : StreamIndex) : Request α → Option (Nat × Op α)
  | .submit b _ op => if b.stream = t then some (b.slot, op) else none
  | .fence _ => none

/-- **The work requests bring to a stream**, in order. -/
def workFor (t : StreamIndex) (l : List (Request α)) : List (Nat × Op α) :=
  l.filterMap (workFor? t)

/-- What may follow a request: one of the same stage, or after a fence one of a later stage. -/
def Next : Request α → Request α → Prop
  | .submit _ call _, r => call.number = r.number
  | .fence stage, r => stage.number < r.number

/-- **Requests that go through stages in order**: a fence ends each stage, operations belong to the
stage they are sent in, and each slot has its stream. -/
structure Orderly (home : Nat → StreamIndex) (l : List (Request α)) : Prop where
  chain : l.IsChain Next
  home : ∀ {b call op}, .submit b call op ∈ l → home b.slot = b.stream
  number : ∀ {b call op n}, .submit b call op ∈ l → op.number? = some n → n = call.number

@[simp] theorem workFor_nil (t : StreamIndex) : workFor t ([] : List (Request α)) = [] := rfl

@[simp] theorem workFor_append (t : StreamIndex) (l l' : List (Request α)) :
    workFor t (l ++ l') = workFor t l ++ workFor t l' := List.filterMap_append

@[simp] theorem workFor_fence (t : StreamIndex) (stage : Stage α) :
    workFor t [.fence stage] = [] := rfl

theorem workFor_submit (t : StreamIndex) (b : Binding α) (call : StageCall α) (op : Op α) :
    workFor t [.submit b call op] = if b.stream = t then [(b.slot, op)] else [] := by
  rw [workFor, List.filterMap_cons, workFor?]
  by_cases h : b.stream = t
  · rw [if_pos h, if_pos h]
    rfl
  · rw [if_neg h, if_neg h]
    rfl

theorem mem_workFor {t : StreamIndex} {l : List (Request α)} {x : Nat × Op α} :
    x ∈ workFor t l ↔ ∃ b call, .submit b call x.2 ∈ l ∧ b.stream = t ∧ b.slot = x.1 := by
  rw [workFor, List.mem_filterMap]
  constructor
  · rintro ⟨r, hr, hx⟩
    cases r with
    | fence stage => cases hx
    | submit b call op =>
      rw [workFor?, Option.ite_none_right_eq_some] at hx
      obtain ⟨hb, hx⟩ := hx
      cases hx
      exact ⟨b, call, hr, hb, rfl⟩
  · rintro ⟨b, call, hr, hb, hslot⟩
    exact ⟨_, hr, by rw [workFor?, if_pos hb, hslot]⟩

/-- In a chain without fences every request belongs to the stage of what comes next. -/
theorem number_of_mem_chain {current rest : List (Request α)} {r : Request α}
    (hc : (current ++ r :: rest).IsChain Next) (hfree : ∀ stage, .fence stage ∉ current) :
    ∀ r' ∈ current, r'.number = r.number := by
  induction current with
  | nil => exact fun r' h => absurd h List.not_mem_nil
  | cons a current ih =>
    have hrest := ih hc.tail fun stage h => hfree stage (List.mem_cons_of_mem _ h)
    have ha : a.number = r.number := by
      cases a with
      | fence stage => exact absurd List.mem_cons_self (hfree stage)
      | submit b call op =>
        cases current with
        | nil => exact (List.isChain_cons_cons.mp hc).1
        | cons a' current =>
          exact (List.isChain_cons_cons.mp hc).1.trans (hrest a' List.mem_cons_self)
    intro r' h
    rcases List.mem_cons.mp h with rfl | h
    · exact ha
    · exact hrest r' h

theorem Next.le {r r' : Request α} (h : Next r r') : r.number ≤ r'.number := by
  cases r with
  | submit b call op => exact Nat.le_of_eq h
  | fence stage => exact Nat.le_of_lt h

/-- Requests in order belong to stages in order. -/
theorem number_le_of_chain {l : List (Request α)} (hc : l.IsChain Next) :
    l.Pairwise (·.number ≤ ·.number) :=
  haveI : Trans (fun r r' : Request α => r.number ≤ r'.number)
      (fun r r' : Request α => r.number ≤ r'.number)
      (fun r r' : Request α => r.number ≤ r'.number) := ⟨Nat.le_trans⟩
  List.isChain_iff_pairwise.mp (hc.imp fun _ _ => Next.le)

end Request

/-- The work a message asks for. -/
def Message.work? : Message α → Option (Nat × Op α)
  | .work slot op => some (slot, op)
  | .fence => none

/-- **The work in a lane's queue**, in order. -/
def Lane.work (lane : Lane α) : List (Nat × Op α) := lane.queue.filterMap Message.work?

/-! ## Turns of a worker -/

/-- **A worker's turn**: the operation at the front of its queue, and what was remembered then. -/
structure Turn (σ α : Type) where
  work : Nat × Op α
  memory : σ

namespace Worker

variable [Scalar α] (ops : Operators σ α)

/-- The worker after a turn. -/
def turn (w : Worker α) (x : Turn σ α) : Worker α := (w.perform ops x.work.1 x.work.2 x.memory).1

/-- **The worker after its turns.** -/
def after (w : Worker α) (l : List (Turn σ α)) : Worker α := l.foldl (turn ops) w

/-- **The operations carried out** in a worker's turns, not those skipped. -/
def carried : Worker α → List (Turn σ α) → List (Nat × Op α)
  | _, [] => []
  | w, x :: l => (if w.status = .done then [x.work] else []) ++ carried (w.turn ops x) l

@[simp] theorem after_nil (w : Worker α) : w.after ops ([] : List (Turn σ α)) = w := rfl

theorem after_cons (w : Worker α) (x : Turn σ α) (l : List (Turn σ α)) :
    w.after ops (x :: l) = (w.turn ops x).after ops l := rfl

theorem after_append (w : Worker α) (l l' : List (Turn σ α)) :
    w.after ops (l ++ l') = (w.after ops l).after ops l' := List.foldl_append

@[simp] theorem stream_after (l : List (Turn σ α)) :
    ∀ w : Worker α, (w.after ops l).stream = w.stream := by
  induction l with
  | nil => exact fun _ => rfl
  | cons x l ih => exact fun w => (ih _).trans (stream_perform ops w _ _ _)

theorem turn_of_status_ne {w : Worker α} (h : w.status ≠ .done) (x : Turn σ α) :
    w.turn ops x = w := by
  rw [turn, perform_of_status_ne ops h]

theorem after_of_status_ne {w : Worker α} (h : w.status ≠ .done) (l : List (Turn σ α)) :
    w.after ops l = w := by
  induction l with
  | nil => rfl
  | cons x l ih => rw [after_cons, turn_of_status_ne ops h, ih]

/-- A worker with nothing wrong after its turns had nothing wrong before. -/
theorem status_of_after {w : Worker α} {l : List (Turn σ α)} (h : (w.after ops l).status = .done) :
    w.status = .done := by
  by_contra hne
  rw [after_of_status_ne ops hne] at h
  exact hne h

/-- A worker with nothing wrong after its turns had nothing wrong before and after each of them. -/
theorem status_of_turn_mem {w : Worker α} {first rest : List (Turn σ α)} {x : Turn σ α}
    (h : (w.after ops (first ++ x :: rest)).status = .done) :
    (w.after ops first).status = .done ∧ ((w.after ops first).turn ops x).status = .done := by
  rw [after_append, after_cons] at h
  have hturn := status_of_after ops h
  refine ⟨?_, hturn⟩
  by_contra hne
  rw [turn_of_status_ne ops hne] at hturn
  exact hne hturn

theorem carried_append (l l' : List (Turn σ α)) : ∀ w : Worker α,
    w.carried ops (l ++ l') = w.carried ops l ++ (w.after ops l).carried ops l' := by
  induction l with
  | nil => exact fun _ => rfl
  | cons x l ih =>
    intro w
    rw [List.cons_append, carried, carried, ih, List.append_assoc]
    rfl

/-- After a failure nothing is carried out. -/
theorem carried_of_status_ne {w : Worker α} (h : w.status ≠ .done) (l : List (Turn σ α)) :
    w.carried ops l = [] := by
  induction l with
  | nil => rfl
  | cons x l ih => rw [carried, if_neg h, turn_of_status_ne ops h, ih, List.append_nil]

/-- **What was carried out is the beginning of what there was to do.** -/
theorem carried_isPrefix (l : List (Turn σ α)) : ∀ w : Worker α,
    w.carried ops l <+: l.map Turn.work := by
  induction l with
  | nil => exact fun _ => List.nil_prefix
  | cons x l ih =>
    intro w
    by_cases h : w.status = .done
    · rw [carried, if_pos h]
      exact List.cons_prefix_cons.mpr ⟨rfl, ih _⟩
    · rw [carried_of_status_ne ops h]
      exact List.nil_prefix

/-- A worker with nothing wrong has carried out everything. -/
theorem carried_eq (l : List (Turn σ α)) : ∀ {w : Worker α}, (w.after ops l).status = .done →
    w.carried ops l = l.map Turn.work := by
  induction l with
  | nil => exact fun _ => rfl
  | cons x l ih =>
    intro w h
    rw [carried, if_pos (status_of_after ops h), ih h]
    rfl

end Worker

/-! ## The error of a turn -/

theorem Outcome.verdict_eq_failed {wrap : EvalError → StepError} {o : Outcome} {e : StepError}
    (h : o.verdict wrap = .failed e) : ∃ reason, e = wrap reason := by
  cases o with
  | failed reason => exact ⟨reason, (Verdict.failed.inj h).symm⟩
  | done => cases h
  | crashed => cases h

variable [Scalar α] (ops : Operators σ α)

/-- **A launch fails in dispatch**, in the words of its stage and its grid. -/
theorem Op.exists_dispatch_of_executeLaunch {overflow : Overflow} {params : Option (Params α)}
    {call : StageCall α} {kernel : StageKernel α} {stageBuffer : Role} {work : Launch} {g : Grid α}
    {e : StepError}
    (h : (executeLaunch overflow params call kernel stageBuffer work g).1 = .failed e) :
    ∃ fault, e = .dispatch ⟨call.kernel, call.number, g.id, fault⟩ := by
  unfold executeLaunch at h
  dsimp only at h
  split at h
  · cases h; exact ⟨_, rfl⟩
  · split at h
    · cases h
    · split at h
      · cases h; exact ⟨_, rfl⟩
      · split at h
        · cases h
        · cases h; exact ⟨_, rfl⟩
        · cases h

/-- **The error of an operation names its stage.** -/
theorem Op.stage?_of_execute {stream : StreamIndex} {params : Option (Params α)} {g : Grid α}
    {memory : σ} {op : Op α} {e : StepError}
    (h : (op.execute ops stream params g memory).verdict = .failed e) :
    ∃ n, op.number? = some n ∧ e.stage? = some n := by
  cases op with
  | syncParams p => cases h
  | launch call kernel stageBuffer work =>
    obtain ⟨fault, rfl⟩ := exists_dispatch_of_executeLaunch h
    exact ⟨call.number, rfl, rfl⟩
  | evaluateRhs call input output =>
    simp only [execute, executeRhs] at h
    split at h
    · cases h
    · dsimp only at h
      split at h
      · split at h
        · cases h
        · cases h; exact ⟨call.number, rfl, rfl⟩
      · obtain ⟨reason, rfl⟩ := Outcome.verdict_eq_failed h
        exact ⟨call.number, rfl, rfl⟩
  | applyRadiation call input output =>
    simp only [execute, executeRadiation] at h
    split at h
    · cases h
    · obtain ⟨reason, rfl⟩ := Outcome.verdict_eq_failed h
      exact ⟨call.number, rfl, rfl⟩
  | applyBoundary call target =>
    obtain ⟨reason, rfl⟩ := Outcome.verdict_eq_failed h
    exact ⟨call.number, rfl, rfl⟩

namespace Worker

/-- **A worker fails with the verdict on an operation** on one of its grids. -/
theorem exists_verdict_of_failed {w : Worker α} (hs : w.status = .done) {slot : Nat} {op : Op α}
    {memory : σ} {e : StepError} (h : (w.perform ops slot op memory).1.failed = some e) :
    ∃ g, w.grid? slot = some g ∧ op.IsWork
      ∧ (op.execute ops w.stream w.params g memory).verdict = .failed e := by
  obtain ⟨-, hf⟩ := status_eq_done.mp hs
  by_cases hop : op.IsWork
  · cases hg : w.grid? slot with
    | some g =>
      refine ⟨g, rfl, hop, ?_⟩
      rw [perform_work ops hs hg hop] at h
      cases hv : (op.execute ops w.stream w.params g memory).verdict with
      | failed error =>
        rw [hv] at h
        exact congrArg Verdict.failed (Option.some.inj h)
      | done => rw [hv] at h; exact absurd (hf.symm.trans h) (by simp)
      | crashed => rw [hv] at h; exact absurd (hf.symm.trans h) (by simp)
    | none =>
      rw [perform_of_status ops hs] at h
      cases op with
      | syncParams params => exact absurd rfl (hop params)
      | _ => simp only [execute, hg, hf] at h; cases h
  · obtain ⟨params, rfl⟩ : ∃ params, op = .syncParams params := by simpa [Op.IsWork] using hop
    rw [perform_sync ops hs] at h
    exact absurd (hf.symm.trans h) (by simp)

theorem stage?_of_turn {w : Worker α} (hs : w.status = .done) {x : Turn σ α} {e : StepError}
    (h : (w.turn ops x).failed = some e) :
    ∃ n, x.work.2.number? = some n ∧ e.stage? = some n := by
  obtain ⟨g, -, -, hverdict⟩ := exists_verdict_of_failed ops hs h
  exact Op.stage?_of_execute ops hverdict

/-- **The error of a worker names the stage of one of its turns.** -/
theorem stage?_of_after {l : List (Turn σ α)} {e : StepError} : ∀ {w : Worker α},
    w.status = .done → (w.after ops l).failed = some e →
      ∃ x ∈ l, ∃ n, x.work.2.number? = some n ∧ e.stage? = some n := by
  induction l with
  | nil =>
    intro w hs h
    rw [after_nil, (status_eq_done.mp hs).2] at h
    cases h
  | cons x l ih =>
    intro w hs h
    by_cases hx : (w.turn ops x).status = .done
    · obtain ⟨y, hy, he⟩ := ih hx h
      exact ⟨y, List.mem_cons_of_mem _ hy, he⟩
    · rw [after_cons, after_of_status_ne ops hx] at h
      exact ⟨x, List.mem_cons_self, stage?_of_turn ops hs h⟩

end Worker

end MethodOfLines
