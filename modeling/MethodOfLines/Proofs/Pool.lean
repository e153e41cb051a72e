import MethodOfLines.Proofs.Worker
import MethodOfLines.Stream.Pool

/-!
# Proofs/Pool — what the operations issued for a list of grids come to

An operation issued changes the stream its grid is bound to and nothing else (`Pool.onStream`), so
the operations on one grid issued in a row are one change of one stream.  `Pool.sweep` issues such a
row for each grid of a list.  Its meaning is `Pool.sweep_spec`: every grid has a verdict of its own,
reached from the grid as it was; a stream stands at the first verdict among its grids that is not
`done`; and a grid whose stream is `done` at the end is as its own row left it.
-/

namespace MethodOfLines

variable {σ α : Type}

/-! ## The first verdict that is not `done` -/

namespace Verdict

/-- The first of two verdicts that is not `done`. -/
def andThen : Verdict → Verdict → Verdict
  | .done, v => v
  | v, _ => v

/-- **The first verdict that is not `done`.** -/
def first (l : List Verdict) : Verdict := l.foldr andThen .done

/-- The error of a verdict. -/
def error? : Verdict → Option StepError
  | .failed error => some error
  | .done | .crashed => none

@[simp] theorem done_andThen (v : Verdict) : andThen .done v = v := rfl

@[simp] theorem andThen_done (v : Verdict) : andThen v .done = v := by cases v <;> rfl

theorem andThen_assoc (u v w : Verdict) : (u.andThen v).andThen w = u.andThen (v.andThen w) := by
  cases u <;> rfl

theorem andThen_eq_done {u v : Verdict} : u.andThen v = .done ↔ u = .done ∧ v = .done := by
  cases u <;> simp [andThen]

theorem andThen_of_ne {u : Verdict} (h : u ≠ .done) (v : Verdict) : u.andThen v = u := by
  cases u <;> simp_all [andThen]

@[simp] theorem first_nil : first [] = .done := rfl

@[simp] theorem first_cons (v : Verdict) (l : List Verdict) :
    first (v :: l) = v.andThen (first l) := rfl

theorem first_eq_done {l : List Verdict} : first l = .done ↔ ∀ v ∈ l, v = .done := by
  induction l with
  | nil => simp
  | cons v l ih => simp [andThen_eq_done, ih]

theorem first_ne_crashed {l : List Verdict} (h : ∀ v ∈ l, v ≠ .crashed) : first l ≠ .crashed := by
  induction l with
  | nil => simp
  | cons v l ih =>
    rw [first_cons]
    cases v with
    | done => exact ih fun u hu => h u (List.mem_cons_of_mem _ hu)
    | failed error => simp [andThen]
    | crashed => exact absurd rfl (h .crashed List.mem_cons_self)

/-- Where nothing crashed, the error is the first there is. -/
theorem error?_first {l : List Verdict} (h : ∀ v ∈ l, v ≠ .crashed) :
    (first l).error? = l.findSome? error? := by
  induction l with
  | nil => rfl
  | cons v l ih =>
    cases v with
    | done => exact ih fun u hu => h u (List.mem_cons_of_mem _ hu)
    | failed error => rfl
    | crashed => exact absurd rfl (h .crashed List.mem_cons_self)

end Verdict

/-- What an error makes of a request, and its absence. -/
def StepError.result : Option StepError → Except StepError Unit
  | some error => .error error
  | none => .ok ()

theorem StepError.result_eq_ok {error : Option StepError} :
    result error = .ok () ↔ error = none := by
  cases error <;> simp [result]

theorem StepError.result_eq_error {error : Option StepError} {e : StepError} :
    result error = .error e ↔ error = some e := by
  cases error <;> simp [result]

/-! ## One stream -/

namespace Stream

/-- Where a stream stands decides its answer at the end of a stage. -/
theorem answer_eq_none {st : Stream α} {stage : Stage α} :
    st.answer stage = none ↔ st.worker.status = .done := by
  unfold answer Worker.status
  cases st.worker.lost <;> cases st.worker.failed <;> simp

theorem answer_of_ne_crashed {st : Stream α} (h : st.worker.status ≠ .crashed) (stage : Stage α) :
    st.answer stage = st.worker.status.error? := by
  unfold answer
  unfold Worker.status at h ⊢
  cases hl : st.worker.lost
  · cases st.worker.failed <;> rfl
  · simp [hl] at h

variable [Scalar α] (ops : Operators σ α)

/-- The stream once an operation on a grid has been issued to it. -/
def accept (b : Binding α) (op : Op α) (st : Stream α) (memory : σ) : Stream α × σ :=
  (⟨b.descriptor.id, (st.worker.perform ops b.slot op memory).1⟩,
    (st.worker.perform ops b.slot op memory).2)

/-- The stream once a row of operations on a grid has been issued to it. -/
def acceptAll (b : Binding α) : List (Op α) → Stream α → σ → Stream α × σ
  | [], st, memory => (st, memory)
  | op :: rest, st, memory =>
    acceptAll b rest (st.accept ops b op memory).1 (st.accept ops b op memory).2

@[simp] theorem index_accept (b : Binding α) (op : Op α) (st : Stream α) (memory : σ) :
    (st.accept ops b op memory).1.index = st.index :=
  Worker.stream_perform ops st.worker b.slot op memory

@[simp] theorem index_acceptAll (b : Binding α) (l : List (Op α)) :
    ∀ (st : Stream α) (memory : σ), (acceptAll ops b l st memory).1.index = st.index := by
  induction l with
  | nil => exact fun _ _ => rfl
  | cons op l ih => exact fun st memory => (ih _ _).trans (index_accept ops b op st memory)

theorem acceptAll_cons (b : Binding α) (l : List (Op α)) :
    ∀ (op : Op α) (st : Stream α) (memory : σ), acceptAll ops b (op :: l) st memory
      = (⟨b.descriptor.id, (st.worker.performAll ops b.slot (op :: l) memory).1⟩,
          (st.worker.performAll ops b.slot (op :: l) memory).2) := by
  induction l with
  | nil => exact fun _ _ _ => rfl
  | cons op' l ih =>
    intro op st memory
    rw [acceptAll, ih]
    rfl

end Stream

/-! ## A row of operations on one grid -/

/-- **What a row of operations on a grid comes to**, once its parameters are installed. -/
def Binding.outcome [Scalar α] (ops : Operators σ α) (b : Binding α) (l : List (Op α)) (g : Grid α)
    (memory : σ) : Executed σ α :=
  Op.executeAll ops b.stream (some (.ofDescriptor b.descriptor)) l g memory

namespace Worker

variable [Scalar α] (ops : Operators σ α)

/-- A row that begins by installing parameters, on a worker that skips nothing. -/
theorem performAll_row {w : Worker α} (hw : w.status = .done) {b : Binding α}
    (hb : w.stream = b.stream) {g : Grid α} (hg : w.grid? b.slot = some g) {l : List (Op α)}
    (hne : l ≠ []) (hl : ∀ op ∈ l, op.IsWork) (memory : σ) :
    w.performAll ops b.slot (.sync b.descriptor :: l) memory
      = ((w.install (.ofDescriptor b.descriptor)).settle b.slot (b.outcome ops l g memory).verdict
          (b.outcome ops l g memory).grid,
        (b.outcome ops l g memory).memory) := by
  obtain ⟨op, l, rfl⟩ := List.exists_cons_of_ne_nil hne
  rw [performAll, Op.sync, perform_sync ops hw]
  refine (performAll_cons ops hl (w := w.install (.ofDescriptor b.descriptor)) hw hg
    memory).trans ?_
  rw [Binding.outcome, ← hb]
  rfl

end Worker

/-! ## A change of one stream -/

namespace Pool

/-- **The pool with one stream changed**, and with it what is remembered. -/
def onStream (pool : Pool σ α) (s : StreamIndex) (f : Stream α → σ → Stream α × σ) : Pool σ α :=
  match pool.stream? s with
  | none => pool
  | some st => { pool.setStream (f st pool.memory).1 with memory := (f st pool.memory).2 }

/-- The numbers of the streams, in order. -/
def indices (pool : Pool σ α) : List StreamIndex := pool.streams.map Stream.index

/-- Where a stream stands. -/
def statusOf (pool : Pool σ α) (s : StreamIndex) : Verdict :=
  ((pool.stream? s).map (·.worker.status)).getD .done

theorem index_of_stream? {pool : Pool σ α} {s : StreamIndex} {st : Stream α}
    (h : pool.stream? s = some st) : st.index = s := by
  simpa using List.find?_some h

theorem mem_of_stream? {pool : Pool σ α} {s : StreamIndex} {st : Stream α}
    (h : pool.stream? s = some st) : st ∈ pool.streams := List.mem_of_find?_eq_some h

theorem find?_index_of_mem {l : List (Stream α)} (hn : (l.map Stream.index).Nodup) {st : Stream α}
    (h : st ∈ l) : l.find? (·.index = st.index) = some st := by
  induction l with
  | nil => exact absurd h List.not_mem_nil
  | cons st' l ih =>
    rw [List.map_cons, List.nodup_cons] at hn
    rcases List.mem_cons.mp h with rfl | hmem
    · simp
    · have hne : st'.index ≠ st.index := fun heq => hn.1 (heq ▸ List.mem_map_of_mem hmem)
      rw [List.find?_cons_of_neg (by simpa using hne)]
      exact ih hn.2 hmem

theorem stream?_of_mem {pool : Pool σ α} (hn : pool.indices.Nodup) {st : Stream α}
    (h : st ∈ pool.streams) : pool.stream? st.index = some st := find?_index_of_mem hn h

theorem find?_map_replace (l : List (Stream α)) (new : Stream α) (i : StreamIndex) :
    (l.map fun old => if old.index = new.index then new else old).find? (·.index = i)
      = if i = new.index then (l.find? (·.index = i)).map fun _ => new
        else l.find? (·.index = i) := by
  induction l with
  | nil => simp
  | cons st l ih =>
    by_cases hst : st.index = new.index
    · by_cases hi : i = new.index
      · subst hi
        simp [hst]
      · have h1 : ¬ new.index = i := fun h => hi h.symm
        simp [hst, h1, hi, ih]
    · by_cases hi : st.index = i
      · subst hi
        simp [hst]
      · simp [hst, hi, ih]

/-- **A change of one stream is seen on that stream alone.** -/
theorem stream?_onStream (pool : Pool σ α) (s : StreamIndex) {f : Stream α → σ → Stream α × σ}
    (hf : ∀ st memory, (f st memory).1.index = st.index) (i : StreamIndex) :
    (pool.onStream s f).stream? i
      = if i = s then (pool.stream? s).map fun st => (f st pool.memory).1 else pool.stream? i := by
  unfold onStream
  cases h : pool.stream? s with
  | none =>
    by_cases hi : i = s
    · rw [if_pos hi, hi, h, Option.map_none]
    · rw [if_neg hi]
  | some st =>
    have hix : (f st pool.memory).1.index = s := (hf _ _).trans (index_of_stream? h)
    have hfind := find?_map_replace pool.streams (f st pool.memory).1 i
    rw [hix] at hfind
    refine Eq.trans (Eq.trans ?_ hfind) ?_
    · simp only [stream?, setStream, hix]
    · by_cases hi : i = s
      · subst hi
        rw [if_pos rfl, if_pos rfl, show pool.streams.find? (·.index = i) = some st from h]
        rfl
      · rw [if_neg hi, if_neg hi]
        rfl

@[simp] theorem indices_onStream (pool : Pool σ α) (s : StreamIndex)
    (f : Stream α → σ → Stream α × σ) : (pool.onStream s f).indices = pool.indices := by
  unfold onStream
  cases h : pool.stream? s with
  | none => rfl
  | some st =>
    simp only [indices, setStream, List.map_map]
    refine List.map_congr_left fun old _ => ?_
    by_cases hi : old.index = (f st pool.memory).1.index
    · simp [hi]
    · simp [hi]

@[simp] theorem bindings_onStream (pool : Pool σ α) (s : StreamIndex)
    (f : Stream α → σ → Stream α × σ) : (pool.onStream s f).bindings = pool.bindings := by
  unfold onStream
  cases pool.stream? s <;> rfl

theorem onStream_of_some {pool : Pool σ α} {s : StreamIndex} {st : Stream α}
    (h : pool.stream? s = some st) (f : Stream α → σ → Stream α × σ) :
    pool.onStream s f
      = { pool.setStream (f st pool.memory).1 with memory := (f st pool.memory).2 } := by
  rw [onStream, h]

/-- Two changes of one stream are one. -/
theorem onStream_onStream (pool : Pool σ α) (s : StreamIndex) {f g : Stream α → σ → Stream α × σ}
    (hf : ∀ st memory, (f st memory).1.index = st.index)
    (hg : ∀ st memory, (g st memory).1.index = st.index) :
    (pool.onStream s f).onStream s g
      = pool.onStream s fun st memory => g (f st memory).1 (f st memory).2 := by
  have hs := stream?_onStream pool s hf s
  rw [if_pos rfl] at hs
  cases h : pool.stream? s with
  | none =>
    have hp : ∀ f', pool.onStream s f' = pool := fun f' => by rw [onStream, h]
    rw [hp f, hp g, hp]
  | some st =>
    rw [h, Option.map_some] at hs
    have hfi : (f st pool.memory).1.index = st.index := hf _ _
    have hgi : (g (f st pool.memory).1 (f st pool.memory).2).1.index = st.index :=
      (hg _ _).trans hfi
    rw [onStream_of_some hs, onStream_of_some h, onStream_of_some h]
    simp only [setStream, List.map_map, hfi, hgi]
    congr 1
    refine List.map_congr_left fun old _ => ?_
    by_cases hi : old.index = st.index <;> simp [hi, hfi]

theorem statusOf_onStream (pool : Pool σ α) (s : StreamIndex) {f : Stream α → σ → Stream α × σ}
    (hf : ∀ st memory, (f st memory).1.index = st.index) {i : StreamIndex} (h : i ≠ s) :
    (pool.onStream s f).statusOf i = pool.statusOf i := by
  rw [statusOf, stream?_onStream pool s hf, if_neg h, statusOf]

theorem grid?_onStream (pool : Pool σ α) (s : StreamIndex) {f : Stream α → σ → Stream α × σ}
    (hf : ∀ st memory, (f st memory).1.index = st.index) {b : Binding α} (h : b.stream ≠ s) :
    (pool.onStream s f).grid? b = pool.grid? b := by
  rw [grid?, stream?_onStream pool s hf, if_neg h, grid?]

theorem stream?_of_grid? {pool : Pool σ α} {b : Binding α} {g : Grid α}
    (h : pool.grid? b = some g) :
    ∃ st, pool.stream? b.stream = some st ∧ st.worker.grid? b.slot = some g :=
  Option.bind_eq_some_iff.mp h

/-! ## Operations issued -/

section Issued

variable [Scalar α] (ops : Operators σ α)

/-- The pool once an operation has been issued. -/
def absorb (pool : Pool σ α) (b : Binding α) (op : Op α) : Pool σ α :=
  pool.onStream b.stream (Stream.accept ops b op)

/-- **What an operation issued does to the pool does not depend on the answer.** -/
theorem submit_snd (pool : Pool σ α) (b : Binding α) (call : StageCall α) (op : Op α) :
    (pool.submit ops b call op).2 = pool.absorb ops b op := by
  unfold submit absorb onStream
  cases h : pool.stream? b.stream with
  | none => rfl
  | some st =>
    cases hl : st.worker.lost with
    | false => simp [hl, Stream.accept]
    | true =>
      have hskip : st.worker.perform ops b.slot op pool.memory = (st.worker, pool.memory) := by
        rw [Worker.perform, if_pos (by simp [hl])]
      simp [hl, Stream.accept, hskip, setStream]

/-- An operation is taken by a stream that is there and not lost. -/
theorem submit_fst (pool : Pool σ α) (b : Binding α) (call : StageCall α) (op : Op α)
    {st : Stream α} (h : pool.stream? b.stream = some st) :
    (pool.submit ops b call op).1
      = if st.worker.lost then
          .error ⟨call.kernel, call.number, b.descriptor.id, .streamLost b.stream⟩
        else .ok () := by
  unfold submit
  rw [h]
  cases hl : st.worker.lost <;> simp [hl]

/-- The pool once a row of operations on one grid has been issued. -/
def absorbAll (pool : Pool σ α) (b : Binding α) (l : List (Op α)) : Pool σ α :=
  l.foldl (fun pool op => pool.absorb ops b op) pool

/-- A row of operations on one grid is one change of its stream. -/
theorem absorbAll_cons (b : Binding α) (l : List (Op α)) :
    ∀ (op : Op α) (pool : Pool σ α), pool.absorbAll ops b (op :: l)
      = pool.onStream b.stream (Stream.acceptAll ops b (op :: l)) := by
  induction l with
  | nil => exact fun op pool => rfl
  | cons op' l ih =>
    intro op pool
    have hstep : pool.absorbAll ops b (op :: op' :: l)
        = (pool.absorb ops b op).absorbAll ops b (op' :: l) := rfl
    rw [hstep, ih, absorb, onStream_onStream pool b.stream (Stream.index_accept ops b op)
      (Stream.index_acceptAll ops b _)]
    rfl

variable {ops}

/-- A row of operations moves its stream on by the verdict of the row. -/
theorem statusOf_row {pool : Pool σ α} {b : Binding α} {g : Grid α} (hg : pool.grid? b = some g)
    {l : List (Op α)} (hne : l ≠ []) (hl : ∀ op ∈ l, op.IsWork) :
    (pool.absorbAll ops b (.sync b.descriptor :: l)).statusOf b.stream
      = (pool.statusOf b.stream).andThen (b.outcome ops l g pool.memory).verdict := by
  obtain ⟨st, hst, hsg⟩ := stream?_of_grid? hg
  have hold : pool.statusOf b.stream = st.worker.status := by
    rw [statusOf, hst, Option.map_some, Option.getD_some]
  rw [hold, absorbAll_cons, statusOf, stream?_onStream _ _ (Stream.index_acceptAll ops b _),
    if_pos rfl, hst, Option.map_some, Option.map_some, Option.getD_some, Stream.acceptAll_cons]
  by_cases hs : st.worker.status = .done
  · rw [Worker.performAll_row ops hs (index_of_stream? hst) hsg hne hl, hs, Verdict.done_andThen]
    exact Worker.status_settle (w := st.worker.install _) hs _ _ _
  · rw [Worker.performAll_of_status_ne ops hs, Verdict.andThen_of_ne hs]

/-- A row of operations on a stream that stands at `done` leaves the grid the row comes to. -/
theorem grid?_row {pool : Pool σ α} {b : Binding α} {g : Grid α} (hg : pool.grid? b = some g)
    (hs : pool.statusOf b.stream = .done) {l : List (Op α)} (hne : l ≠ [])
    (hl : ∀ op ∈ l, op.IsWork) :
    (pool.absorbAll ops b (.sync b.descriptor :: l)).grid? b
      = some (b.outcome ops l g pool.memory).grid := by
  obtain ⟨st, hst, hsg⟩ := stream?_of_grid? hg
  rw [statusOf, hst, Option.map_some, Option.getD_some] at hs
  rw [absorbAll_cons, grid?, stream?_onStream _ _ (Stream.index_acceptAll ops b _), if_pos rfl, hst,
    Option.map_some, Option.bind_some, Stream.acceptAll_cons,
    Worker.performAll_row ops hs (index_of_stream? hst) hsg hne hl]
  exact (Worker.grid?_settle (w := st.worker.install _) hsg _ _ _).trans (if_pos rfl)

/-- **A row of operations on one grid leaves the grids in other slots alone.** -/
theorem grid?_row_of_ne {pool : Pool σ α} {b : Binding α} {g : Grid α} (hg : pool.grid? b = some g)
    {l : List (Op α)} (hne : l ≠ []) (hl : ∀ op ∈ l, op.IsWork) {b' : Binding α}
    (h : b'.slot ≠ b.slot) :
    (pool.absorbAll ops b (.sync b.descriptor :: l)).grid? b' = pool.grid? b' := by
  rw [absorbAll_cons]
  by_cases hb : b'.stream = b.stream
  · obtain ⟨st, hst, hsg⟩ := stream?_of_grid? hg
    rw [grid?, stream?_onStream _ _ (Stream.index_acceptAll ops b _), if_pos hb, grid?, hb, hst,
      Option.map_some, Option.bind_some, Option.bind_some, Stream.acceptAll_cons]
    by_cases hs : st.worker.status = .done
    · rw [Worker.performAll_row ops hs (index_of_stream? hst) hsg hne hl]
      exact (Worker.grid?_settle (w := st.worker.install _) hsg _ _ _).trans (if_neg h)
    · rw [Worker.performAll_of_status_ne ops hs]
  · exact grid?_onStream pool b.stream (Stream.index_acceptAll ops b _) hb

variable (ops)

/-- **The pool once a row of operations has been issued for each grid of a list.** -/
def sweep (work : Binding α → List (Op α)) (bs : List (Binding α)) (pool : Pool σ α) : Pool σ α :=
  bs.foldl (fun pool b => pool.absorbAll ops b (.sync b.descriptor :: work b)) pool

theorem sweep_cons (work : Binding α → List (Op α)) (b : Binding α) (bs : List (Binding α))
    (pool : Pool σ α) :
    pool.sweep ops work (b :: bs)
      = (pool.absorbAll ops b (.sync b.descriptor :: work b)).sweep ops work bs := rfl

@[simp] theorem indices_absorbAll (pool : Pool σ α) (b : Binding α) (l : List (Op α)) :
    (pool.absorbAll ops b l).indices = pool.indices := by
  cases l with
  | nil => rfl
  | cons op l => rw [absorbAll_cons, indices_onStream]

@[simp] theorem bindings_absorbAll (pool : Pool σ α) (b : Binding α) (l : List (Op α)) :
    (pool.absorbAll ops b l).bindings = pool.bindings := by
  cases l with
  | nil => rfl
  | cons op l => rw [absorbAll_cons, bindings_onStream]

@[simp] theorem indices_sweep (work : Binding α → List (Op α)) (bs : List (Binding α)) :
    ∀ pool : Pool σ α, (pool.sweep ops work bs).indices = pool.indices := by
  induction bs with
  | nil => exact fun _ => rfl
  | cons b bs ih => exact fun pool => (ih _).trans (indices_absorbAll ops pool b _)

@[simp] theorem bindings_sweep (work : Binding α → List (Op α)) (bs : List (Binding α)) :
    ∀ pool : Pool σ α, (pool.sweep ops work bs).bindings = pool.bindings := by
  induction bs with
  | nil => exact fun _ => rfl
  | cons b bs ih => exact fun pool => (ih _).trans (bindings_absorbAll ops pool b _)

/-- **What a sweep comes to.**  Each grid has a memory from which its row is carried out, if it is;
its verdict there, reached from the grid before the sweep, is what counts on its stream. -/
theorem sweep_spec {ι : Type} (bind : ι → Binding α) (G : ι → Grid α)
    (work : Binding α → List (Op α)) {is : List ι}
    (hw : ∀ i ∈ is, work (bind i) ≠ [] ∧ ∀ op ∈ work (bind i), op.IsWork)
    (hs : (is.map fun i => (bind i).slot).Nodup) :
    ∀ pool : Pool σ α, (∀ i ∈ is, pool.grid? (bind i) = some (G i)) → ∃ μ : Nat → σ,
      (∀ s, (pool.sweep ops work (is.map bind)).statusOf s
          = (pool.statusOf s).andThen (Verdict.first ((is.filter fun i => (bind i).stream = s).map
              fun i => ((bind i).outcome ops (work (bind i)) (G i) (μ (bind i).slot)).verdict)))
        ∧ (∀ i ∈ is, (pool.sweep ops work (is.map bind)).statusOf (bind i).stream = .done →
            (pool.sweep ops work (is.map bind)).grid? (bind i)
              = some ((bind i).outcome ops (work (bind i)) (G i) (μ (bind i).slot)).grid)
        ∧ ∀ b : Binding α, (∀ i ∈ is, b.slot ≠ (bind i).slot) →
            (pool.sweep ops work (is.map bind)).grid? b = pool.grid? b := by
  induction is with
  | nil =>
    intro pool _
    exact ⟨fun _ => pool.memory, by simp [sweep], by simp, fun _ _ => rfl⟩
  | cons i is ih =>
    intro pool hG
    rw [List.map_cons, List.nodup_cons] at hs
    obtain ⟨hne, hl⟩ := hw i List.mem_cons_self
    have hi := hG i List.mem_cons_self
    have hslot : ∀ j ∈ is, (bind j).slot ≠ (bind i).slot := fun j hj heq =>
      hs.1 (List.mem_map.mpr ⟨j, hj, heq⟩)
    -- the rest of the list is swept from the grids it started with
    have hG' : ∀ j ∈ is, (pool.absorbAll ops (bind i)
        (.sync (bind i).descriptor :: work (bind i))).grid? (bind j) = some (G j) :=
      fun j hj => (grid?_row_of_ne hi hne hl (hslot j hj)).trans (hG j (List.mem_cons_of_mem _ hj))
    obtain ⟨μ, hstat, hgrid, hframe⟩ :=
      ih (fun j hj => hw j (List.mem_cons_of_mem _ hj)) hs.2 _ hG'
    obtain ⟨ν, hν, hνμ⟩ : ∃ ν : Nat → σ,
        ν (bind i).slot = pool.memory ∧ ∀ j ∈ is, ν (bind j).slot = μ (bind j).slot :=
      ⟨fun k => if k = (bind i).slot then pool.memory else μ k, if_pos rfl,
        fun j hj => if_neg (hslot j hj)⟩
    refine ⟨ν, fun s => ?_, fun j hj hd => ?_, fun b hb => ?_⟩
    · have hrest : ((is.filter fun j => (bind j).stream = s).map fun j =>
            ((bind j).outcome ops (work (bind j)) (G j) (ν (bind j).slot)).verdict)
          = (is.filter fun j => (bind j).stream = s).map fun j =>
            ((bind j).outcome ops (work (bind j)) (G j) (μ (bind j).slot)).verdict :=
        List.map_congr_left fun j hj => by rw [hνμ j (List.mem_filter.mp hj).1]
      rw [List.map_cons, sweep_cons, hstat]
      by_cases hbs : (bind i).stream = s
      · subst hbs
        rw [statusOf_row hi hne hl, List.filter_cons_of_pos (by simp), List.map_cons,
          Verdict.first_cons, hν, hrest, Verdict.andThen_assoc]
      · rw [List.filter_cons_of_neg (by simpa using hbs), hrest, absorbAll_cons,
          statusOf_onStream _ _ (Stream.index_acceptAll ops _ _) (Ne.symm hbs)]
    · rw [List.map_cons, sweep_cons] at hd ⊢
      rcases List.mem_cons.mp hj with rfl | hmem
      · rw [hstat, statusOf_row hi hne hl, Verdict.andThen_eq_done, Verdict.andThen_eq_done] at hd
        rw [hframe _ fun j hj => Ne.symm (hslot j hj), grid?_row hi hd.1.1 hne hl, hν]
      · rw [hgrid j hmem hd, hνμ j hmem]
    · rw [List.map_cons, sweep_cons, hframe b fun j hj => hb j (List.mem_cons_of_mem _ hj)]
      exact grid?_row_of_ne hi hne hl (hb i List.mem_cons_self)

end Issued

end Pool

end MethodOfLines
