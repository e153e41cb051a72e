import MethodOfLines.Proofs.Collaborators
import MethodOfLines.Proofs.Lists
import MethodOfLines.Stream.Worker

/-!
# Proofs/Worker — what a worker does with the operations on one grid

A worker's `status` is the verdict on what it has done since it was last asked: while it is `done`
the next operation is carried out, and afterwards everything is skipped.  So a run of operations on
one grid is `Op.executeAll`, the operations up to the first that is not done, and the worker settles
on its verdict (`Worker.performAll_cons`).

With functional collaborators, what a worker makes of an operation does not depend on what is
remembered (`Worker.perform_fst_congr`).
-/

namespace MethodOfLines

variable {σ α : Type}

/-! ## Operations on one grid -/

namespace Op

variable [Scalar α]

/-- **An operation on a grid**, under the parameters installed on its stream. -/
def execute (ops : Operators σ α) (stream : StreamIndex) (params : Option (Params α)) (g : Grid α)
    (memory : σ) : Op α → Executed σ α
  | .syncParams _ => ⟨.done, g, memory⟩
  | .evaluateRhs call input output => executeRhs ops stream call input output g memory
  | .applyRadiation call input output => executeRadiation ops stream call input output g memory
  | .launch call update stageBuffer work =>
    let r := executeLaunch ops.overflow params call update stageBuffer work g
    ⟨r.1, r.2, memory⟩
  | .applyBoundary call target => executeBoundary ops stream call target g memory

/-- **Operations on a grid in order**, up to the first that is not done. -/
def executeAll (ops : Operators σ α) (stream : StreamIndex) (params : Option (Params α)) :
    List (Op α) → Grid α → σ → Executed σ α
  | [], g, memory => ⟨.done, g, memory⟩
  | op :: rest, g, memory =>
    let e := op.execute ops stream params g memory
    match e.verdict with
    | .done => executeAll ops stream params rest e.grid e.memory
    | _ => e

omit [Scalar α] in
/-- An operation that works on the grid, not on the stream's parameters. -/
def IsWork (op : Op α) : Prop := ∀ params, op ≠ .syncParams params

variable (ops : Operators σ α) (stream : StreamIndex) (params : Option (Params α))

theorem executeAll_cons_done {op : Op α} {g : Grid α} {memory : σ}
    (h : (op.execute ops stream params g memory).verdict = .done) (rest : List (Op α)) :
    executeAll ops stream params (op :: rest) g memory
      = executeAll ops stream params rest (op.execute ops stream params g memory).grid
          (op.execute ops stream params g memory).memory := by
  rw [executeAll]
  simp only [h]

theorem executeAll_cons_of_ne {op : Op α} {g : Grid α} {memory : σ}
    (h : (op.execute ops stream params g memory).verdict ≠ .done) (rest : List (Op α)) :
    executeAll ops stream params (op :: rest) g memory
      = op.execute ops stream params g memory := by
  rw [executeAll]
  split
  · exact absurd ‹_› h
  · rfl

@[simp] theorem executeAll_singleton (op : Op α) (g : Grid α) (memory : σ) :
    executeAll ops stream params [op] g memory = op.execute ops stream params g memory := by
  by_cases h : (op.execute ops stream params g memory).verdict = .done
  · rw [executeAll_cons_done ops stream params h, executeAll, ← h]
  · exact executeAll_cons_of_ne ops stream params h []

/-- Operations that are all done are those of the first part and then those of the second. -/
theorem executeAll_append_done {l l' : List (Op α)} {g : Grid α} {memory : σ}
    (h : (executeAll ops stream params (l ++ l') g memory).verdict = .done) :
    (executeAll ops stream params l g memory).verdict = .done
      ∧ executeAll ops stream params (l ++ l') g memory
        = executeAll ops stream params l' (executeAll ops stream params l g memory).grid
            (executeAll ops stream params l g memory).memory := by
  induction l generalizing g memory with
  | nil => exact ⟨rfl, rfl⟩
  | cons op l ih =>
    rw [List.cons_append] at h ⊢
    by_cases hv : (op.execute ops stream params g memory).verdict = .done
    · rw [executeAll_cons_done ops stream params hv] at h
      rw [executeAll_cons_done ops stream params hv, executeAll_cons_done ops stream params hv]
      exact ih h
    · rw [executeAll_cons_of_ne ops stream params hv] at h
      exact absurd h hv

/-- What an operation decides and writes does not depend on what functional collaborators
remember. -/
theorem execute_congr {ops : Operators σ α} (hf : ops.Functional) (g : Grid α) (memory memory' : σ)
    (op : Op α) :
    (op.execute ops stream params g memory).verdict
        = (op.execute ops stream params g memory').verdict
      ∧ (op.execute ops stream params g memory).grid
        = (op.execute ops stream params g memory').grid := by
  cases op with
  | syncParams p => exact ⟨rfl, rfl⟩
  | launch call update stageBuffer work => exact ⟨rfl, rfl⟩
  | evaluateRhs call input output =>
    simp only [execute, executeRhs]
    cases g.functions.buffers.pair? input output with
    | none => exact ⟨rfl, rfl⟩
    | some p =>
      obtain ⟨ho, hb⟩ := hf.rhs (context stream call g) p.1 p.2 memory memory'
      simp only [ho, hb, and_self]
  | applyRadiation call input output =>
    simp only [execute, executeRadiation]
    cases g.functions.buffers.pair? input output with
    | none => exact ⟨rfl, rfl⟩
    | some p =>
      obtain ⟨ho, hb⟩ := hf.boundary.radiation (context stream call g) p.1 p.2 memory memory'
      simp only [ho, hb, and_self]
  | applyBoundary call target =>
    obtain ⟨ho, hb⟩ :=
      hf.boundary.apply (context stream call g) (g.functions.buffer target) memory memory'
    simp only [execute, executeBoundary, ho, hb, and_self]

theorem executeAll_congr {ops : Operators σ α} (hf : ops.Functional) (l : List (Op α)) :
    ∀ (g : Grid α) (memory memory' : σ),
      (executeAll ops stream params l g memory).verdict
          = (executeAll ops stream params l g memory').verdict
        ∧ (executeAll ops stream params l g memory).grid
          = (executeAll ops stream params l g memory').grid := by
  induction l with
  | nil => exact fun _ _ _ => ⟨rfl, rfl⟩
  | cons op l ih =>
    intro g memory memory'
    obtain ⟨hv, hg⟩ := execute_congr stream params hf g memory memory' op
    by_cases h : (op.execute ops stream params g memory).verdict = .done
    · rw [executeAll_cons_done ops stream params h,
        executeAll_cons_done ops stream params (hv ▸ h), hg]
      exact ih _ _ _
    · rw [executeAll_cons_of_ne ops stream params h,
        executeAll_cons_of_ne ops stream params (hv ▸ h)]
      exact ⟨hv, hg⟩

/-- **What every operation keeps, a run of them keeps**: an invariant of the grid, and with it a
property of the verdict that `done` has. -/
theorem executeAll_invariant {I : Grid α → Prop} {Q : Verdict → Prop} (hd : Q .done)
    {l : List (Op α)} (h : ∀ op ∈ l, ∀ g memory, I g →
      I (op.execute ops stream params g memory).grid
        ∧ Q (op.execute ops stream params g memory).verdict) :
    ∀ g memory, I g → I (executeAll ops stream params l g memory).grid
      ∧ Q (executeAll ops stream params l g memory).verdict := by
  induction l with
  | nil => exact fun _ _ hg => ⟨hg, hd⟩
  | cons op l ih =>
    intro g memory hg
    obtain ⟨hi, hq⟩ := h op List.mem_cons_self g memory hg
    by_cases hv : (op.execute ops stream params g memory).verdict = .done
    · rw [executeAll_cons_done ops stream params hv]
      exact ih (fun op' hop' => h op' (List.mem_cons_of_mem _ hop')) _ _ hi
    · rw [executeAll_cons_of_ne ops stream params hv]
      exact ⟨hi, hq⟩

end Op

/-! ## Replacing one grid of a worker -/

namespace Worker

/-- **The verdict on what a worker did** since it was last asked. -/
def status (w : Worker α) : Verdict :=
  if w.lost then .crashed
  else match w.failed with
    | some error => .failed error
    | none => .done

/-- The worker with parameters installed. -/
def install (w : Worker α) (params : Params α) : Worker α := { w with params := some params }

theorem status_eq_done {w : Worker α} : w.status = .done ↔ w.lost = false ∧ w.failed = none := by
  unfold status
  cases w.lost <;> cases w.failed <;> simp

theorem status_eq_crashed {w : Worker α} : w.status = .crashed ↔ w.lost = true := by
  unfold status
  cases w.lost <;> cases w.failed <;> simp

theorem status_eq_failed {w : Worker α} {e : StepError} :
    w.status = .failed e ↔ w.lost = false ∧ w.failed = some e := by
  unfold status
  cases w.lost <;> cases w.failed <;> simp

@[simp] theorem stream_settle (w : Worker α) (slot : Nat) (v : Verdict) (g : Grid α) :
    (w.settle slot v g).stream = w.stream := by
  cases v <;> rfl

@[simp] theorem params_settle (w : Worker α) (slot : Nat) (v : Verdict) (g : Grid α) :
    (w.settle slot v g).params = w.params := by
  cases v <;> rfl

theorem grids_settle (w : Worker α) (slot : Nat) (v : Verdict) (g : Grid α) :
    (w.settle slot v g).grids = (w.setGrid slot g).grids := by
  cases v <;> rfl

theorem status_settle {w : Worker α} (h : w.status = .done) (slot : Nat) (v : Verdict)
    (g : Grid α) : (w.settle slot v g).status = v := by
  obtain ⟨hl, hf⟩ := status_eq_done.mp h
  cases v <;> simp [settle, setGrid, status, hl, hf]

theorem setGrid_setGrid (w : Worker α) (slot : Nat) (g g' : Grid α) :
    (w.setGrid slot g).setGrid slot g' = w.setGrid slot g' := by
  simp only [setGrid, List.map_map]
  congr 2
  funext entry
  by_cases h : entry.1 = slot <;> simp [h]

theorem settle_settle (w : Worker α) (slot : Nat) (v : Verdict) (g g' : Grid α) :
    (w.settle slot .done g).settle slot v g' = w.settle slot v g' := by
  have h : (w.settle slot .done g).setGrid slot g' = w.setGrid slot g' :=
    setGrid_setGrid w slot g g'
  cases v <;> simp only [settle] at h ⊢ <;> rw [h]

/-- **A grid replaced is the grid found**, and the other slots are as before. -/
theorem grid?_settle {w : Worker α} {slot : Nat} {old : Grid α} (h : w.grid? slot = some old)
    (v : Verdict) (g : Grid α) (i : Nat) :
    (w.settle slot v g).grid? i = if i = slot then some g else w.grid? i := by
  rw [grid?, grids_settle, setGrid, List.lookup_map_replace]
  by_cases hi : i = slot
  · subst hi
    rw [if_pos rfl, if_pos rfl, show w.grids.lookup i = some old from h, Option.map_some]
  · rw [if_neg hi, if_neg hi, grid?]

/-! ## Operations on one of its grids -/

variable [Scalar α] (ops : Operators σ α)

/-- After a failure or a crash everything is skipped. -/
theorem perform_of_status_ne {w : Worker α} (h : w.status ≠ .done) (slot : Nat) (op : Op α)
    (memory : σ) : w.perform ops slot op memory = (w, memory) := by
  have hskip : (w.lost || w.failed.isSome) = true := by
    cases hl : w.lost with
    | true => rfl
    | false =>
      cases hf : w.failed with
      | some _ => rfl
      | none => exact absurd (status_eq_done.mpr ⟨hl, hf⟩) h
  rw [perform, if_pos hskip]

theorem perform_of_status {w : Worker α} (h : w.status = .done) (slot : Nat) (op : Op α)
    (memory : σ) : w.perform ops slot op memory = w.execute ops slot op memory := by
  obtain ⟨hl, hf⟩ := status_eq_done.mp h
  rw [perform, if_neg (by simp [hl, hf])]

/-- **An operation carried out settles on its verdict.** -/
theorem perform_work {w : Worker α} (h : w.status = .done) {slot : Nat} {g : Grid α}
    (hg : w.grid? slot = some g) {op : Op α} (hop : op.IsWork) (memory : σ) :
    w.perform ops slot op memory
      = (w.settle slot (op.execute ops w.stream w.params g memory).verdict
          (op.execute ops w.stream w.params g memory).grid,
        (op.execute ops w.stream w.params g memory).memory) := by
  rw [perform_of_status ops h]
  cases op with
  | syncParams params => exact absurd rfl (hop params)
  | _ => simp only [execute, hg]; rfl

theorem perform_sync {w : Worker α} (h : w.status = .done) (slot : Nat) (params : Params α)
    (memory : σ) :
    w.perform ops slot (.syncParams params) memory = (w.install params, memory) := by
  rw [perform_of_status ops h]
  rfl

/-- Operations on one grid, carried out or skipped. -/
def performAll (w : Worker α) (slot : Nat) : List (Op α) → σ → Worker α × σ
  | [], memory => (w, memory)
  | op :: rest, memory =>
    (w.perform ops slot op memory).1.performAll slot rest (w.perform ops slot op memory).2

theorem performAll_of_status_ne {w : Worker α} (h : w.status ≠ .done) (slot : Nat)
    (l : List (Op α)) (memory : σ) : w.performAll ops slot l memory = (w, memory) := by
  induction l with
  | nil => rfl
  | cons op l ih => rw [performAll, perform_of_status_ne ops h, ih]

/-- **A run of operations on one grid settles on the verdict of the run.** -/
theorem performAll_cons {l : List (Op α)} {op : Op α} (hl : ∀ o ∈ op :: l, o.IsWork) :
    ∀ {w : Worker α}, w.status = .done → ∀ {slot : Nat} {g : Grid α}, w.grid? slot = some g →
      ∀ memory : σ, w.performAll ops slot (op :: l) memory
        = (w.settle slot (Op.executeAll ops w.stream w.params (op :: l) g memory).verdict
            (Op.executeAll ops w.stream w.params (op :: l) g memory).grid,
          (Op.executeAll ops w.stream w.params (op :: l) g memory).memory) := by
  induction l generalizing op with
  | nil =>
    intro w hw slot g hg memory
    rw [performAll, performAll, perform_work ops hw hg (hl op List.mem_cons_self),
      Op.executeAll_singleton]
  | cons op' l ih =>
    intro w hw slot g hg memory
    rw [performAll, perform_work ops hw hg (hl op List.mem_cons_self)]
    by_cases hd : (op.execute ops w.stream w.params g memory).verdict = .done
    · rw [Op.executeAll_cons_done ops _ _ hd, hd,
        ih (fun o ho => hl o (List.mem_cons_of_mem _ ho)) (status_settle hw _ _ _)
          ((grid?_settle hg _ _ _).trans (if_pos rfl)),
        settle_settle, stream_settle, params_settle]
    · have hne : (w.settle slot (op.execute ops w.stream w.params g memory).verdict
          (op.execute ops w.stream w.params g memory).grid).status ≠ .done := by
        rwa [status_settle hw]
      rw [performAll_of_status_ne ops hne, Op.executeAll_cons_of_ne ops _ _ hd]

/-- What a worker makes of an operation does not depend on what functional collaborators
remember. -/
theorem perform_fst_congr {ops : Operators σ α} (hf : ops.Functional) (w : Worker α) (slot : Nat)
    (op : Op α) (memory memory' : σ) :
    (w.perform ops slot op memory).1 = (w.perform ops slot op memory').1 := by
  by_cases h : w.status = .done
  · by_cases hop : op.IsWork
    · cases hg : w.grid? slot with
      | some g =>
        obtain ⟨hv, he⟩ := Op.execute_congr w.stream w.params hf g memory memory' op
        rw [perform_work ops h hg hop, perform_work ops h hg hop, hv, he]
      | none =>
        rw [perform_of_status ops h, perform_of_status ops h]
        cases op with
        | syncParams params => rfl
        | _ => simp only [execute, hg]
    · obtain ⟨params, rfl⟩ : ∃ params, op = .syncParams params := by simpa [Op.IsWork] using hop
      rw [perform_sync ops h, perform_sync ops h]
  · rw [perform_of_status_ne ops h, perform_of_status_ne ops h]

@[simp] theorem stream_perform (w : Worker α) (slot : Nat) (op : Op α) (memory : σ) :
    (w.perform ops slot op memory).1.stream = w.stream := by
  by_cases h : w.status = .done
  · rw [perform_of_status ops h]
    cases op <;> cases hg : w.grid? slot <;> simp [execute, hg]
  · rw [perform_of_status_ne ops h]

end Worker

end MethodOfLines
