import MethodOfLines.Proofs.Elementwise
import MethodOfLines.Proofs.Pool

/-!
# Proofs/Row — the operations of one stage on one grid

After its parameters are installed, a grid goes through a **row** of operations: rates, perhaps a
correction of the rates, the kernel, perhaps a correction of its result.  Every operation only
writes buffers (`Grid.Refills`), so the shape that was bound to a stream is the shape the kernel
finds, and the kernel is the elementwise update or a refusal (`Binding.executeLaunch_eq`).

An operation that can be asked for crashes only if a collaborator does, or a size does not fit a
word, and an error of it names the stage (`Op.IsCall.ordinary`).  Hence a row crashes only if a
collaborator does (`Binding.ordinary_row`).
-/

namespace MethodOfLines

variable {σ α : Type}

section Row

variable (blockSize : Nat) (policy : Descriptor α → BoundaryPolicy) (stage : Stage α)
  (call : StageCall α)

/-- **The operations of a stage on one grid**, up to a launch that cannot be formed. -/
def Binding.row (b : Binding α) : List (Op α) :=
  .rates stage call :: ((if (policy b.descriptor).afterRhs then [.radiation stage call] else [])
    ++ match b.launch blockSize stage with
      | .error _ => []
      | .ok work => .kernel stage call work ::
          (if (policy b.descriptor).afterStage then [.boundary stage call] else []))

theorem Binding.row_ne_nil (b : Binding α) : b.row blockSize policy stage call ≠ [] := by
  simp [row]

/-- The operations a row is made of. -/
theorem Binding.cases_of_mem_row {b : Binding α} {op : Op α}
    (h : op ∈ b.row blockSize policy stage call) :
    op = .rates stage call ∨ op = .radiation stage call
      ∨ (∃ work, b.launch blockSize stage = .ok work ∧ op = .kernel stage call work)
      ∨ op = .boundary stage call := by
  rw [row, List.mem_cons, List.mem_append] at h
  rcases h with h | h | h
  · exact .inl h
  · split at h
    · exact .inr (.inl (List.mem_singleton.mp h))
    · exact absurd h List.not_mem_nil
  · cases hw : b.launch blockSize stage with
    | error e => rw [hw] at h; exact absurd h List.not_mem_nil
    | ok work =>
      rw [hw] at h
      rcases List.mem_cons.mp h with h | h
      · exact .inr (.inr (.inl ⟨work, rfl, h⟩))
      · split at h
        · exact .inr (.inr (.inr (List.mem_singleton.mp h)))
        · exact absurd h List.not_mem_nil

theorem Binding.isWork_of_mem_row {b : Binding α} {op : Op α}
    (h : op ∈ b.row blockSize policy stage call) : op.IsWork := by
  rintro params rfl
  rcases cases_of_mem_row blockSize policy stage call h with h | h | ⟨_, _, h⟩ | h <;> cases h

end Row

/-! ## Operations write buffers only -/

/-- The second grid is the first with other contents. -/
def Grid.Refills (g g' : Grid α) : Prop := ∃ b, g' = g.setBuffers b

namespace Grid

theorem Refills.refl (g : Grid α) : g.Refills g := ⟨g.functions.buffers, rfl⟩

theorem Refills.trans {g g' g'' : Grid α} (h : g.Refills g') (h' : g'.Refills g'') :
    g.Refills g'' := by
  obtain ⟨b, rfl⟩ := h
  obtain ⟨b', rfl⟩ := h'
  exact ⟨b', rfl⟩

theorem refills_setBuffer (g : Grid α) (role : Role)
    (v : Vector α (g.functions.points * g.functions.fields)) : g.Refills (g.setBuffer role v) :=
  ⟨g.functions.buffers.set role v, rfl⟩

end Grid

/-! ## The roles of a stage -/

/-- The stage buffers take turns. -/
theorem Role.stageOutput_succ_ne (i : Nat) : stageOutput (i + 1) ≠ stageOutput i := by
  have hmod := Nat.mod_two_eq_zero_or_one i
  rcases hmod with h | h <;> simp [stageOutput, h, Nat.add_mod]

namespace Stage

/-- **The rates of a stage are not written over their input.** -/
theorem rhsInput_ne_rhsOutput (stage : Stage α) : stage.rhsInput ≠ stage.rhsOutput := by
  obtain ⟨i, c, kernel⟩ := stage
  cases i with
  | zero => simp [rhsInput, rhsOutput, Role.stageOutput]
  | succ i => exact (Role.stageOutput_succ_ne i).symm

end Stage

/-! ## The kernel of a stage -/

namespace Buffers

variable {n : Nat}

theorem pair?_of_ne (b : Buffers α n) {read write : Role} (h : read ≠ write) :
    b.pair? read write = some (b.get read, b.get write) := if_neg h

/-- Rates are always written to a stage buffer. -/
theorem stageViews?_stageOutput (b : Buffers α n) (i : Nat) :
    b.stageViews? (.stageOutput i) = some (b.state, b.get (.stageOutput i), b.total) := by
  unfold Role.stageOutput
  split <;> rfl

/-- **State, rates and total updated element by element**, with the rates in `role`. -/
def mapCells (f : Cell α → Cell α) (role : Role) (b : Buffers α n) : Buffers α n :=
  let o := (Operands.mk b.state (b.get role) b.total).mapCells f
  ((b.set .state o.state).set role o.stage).set .total o.total

/-- Buffers written back as they were read. -/
theorem set_stageViews (b : Buffers α n) (i : Nat) :
    ((b.set .state b.state).set (.stageOutput i) (b.get (.stageOutput i))).set .total b.total
      = b := by
  unfold Role.stageOutput
  split <;> rfl

/-- **The kernel of a stage on the buffers of a grid**: the elementwise update, or nothing if the
launch is not as long as they are. -/
theorem runKernelInPlace?_stageOutput [Scalar α] (b : Buffers α n) (i : Nat)
    (kernel : StageKernel α) (dt : α) (work : Launch) :
    b.runKernelInPlace? (.stageOutput i) kernel dt work
      = some (if work.total = n then
            (.ok (), b.mapCells (kernel.scale dt).apply (.stageOutput i))
          else (.error (.bufferMismatch work.total n), b)) := by
  rw [runKernelInPlace?, stageViews?_stageOutput, Option.map_some]
  dsimp only
  by_cases h : work.total = n
  · rw [if_pos h, StageKernel.runInPlace_eq_mapCells _ _ _ _ h]
    rfl
  · rw [if_neg h, StageKernel.runInPlace_eq_error _ _ _ _ h]
    exact congrArg (fun b => some (_, b)) (b.set_stageViews i)

end Buffers

/-- A launch over a grid covers every point of every field. -/
theorem Launch.mul?_of_forGrid {d : Descriptor α} {fields blockSize : Nat} {work : Launch}
    (h : Launch.forGrid d fields blockSize = .ok work) :
    Word.mul? d.points fields = some work.total := by
  unfold forGrid at h
  cases hm : Word.mul? d.points fields with
  | none => rw [hm] at h; simp at h
  | some total =>
    rw [hm] at h
    rw [(of_make h).1]

namespace Binding

/-- **A grid of the shape a binding was made for.** -/
structure Fits (b : Binding α) (g : Grid α) : Prop where
  descriptor : g.descriptor = b.descriptor
  fields : g.functions.fields = b.fields

theorem Fits.refills {b : Binding α} {g g' : Grid α} (h : b.Fits g) (hg : g.Refills g') :
    b.Fits g' := by
  obtain ⟨buffers, rfl⟩ := hg
  exact ⟨h.descriptor, h.fields⟩

theorem mul?_of_launch {b : Binding α} {blockSize : Nat} {stage : Stage α} {work : Launch}
    (h : b.launch blockSize stage = .ok work) :
    Word.mul? b.descriptor.points b.fields = some work.total := by
  unfold launch at h
  cases hl : Launch.forGrid b.descriptor b.fields blockSize with
  | error fault => rw [hl] at h; cases h
  | ok work' =>
    rw [hl] at h
    cases h
    exact Launch.mul?_of_forGrid hl

end Binding

/-! ## How a row ends -/

section Ends

variable [Scalar α]

theorem Op.refills_executeLaunch (overflow : Overflow) (params : Option (Params α))
    (call : StageCall α) (kernel : StageKernel α) (stageBuffer : Role) (work : Launch)
    (g : Grid α) : g.Refills (executeLaunch overflow params call kernel stageBuffer work g).2 := by
  unfold executeLaunch
  dsimp only
  cases params.filter (·.grid = g.id) with
  | none => exact .refl g
  | some synced =>
    dsimp only
    cases Word.product? overflow synced.points g.functions.fields with
    | none => exact .refl g
    | some covered =>
      dsimp only
      split
      · exact .refl g
      · rcases g.functions.buffers.runKernelInPlace? stageBuffer kernel call.dt work with
          _ | ⟨fault | _, buffers⟩
        · exact .refl g
        · exact ⟨buffers, rfl⟩
        · exact ⟨buffers, rfl⟩

/-- **An operation writes buffers only.** -/
theorem Op.refills_execute (ops : Operators σ α) (stream : StreamIndex) (params : Option (Params α))
    (g : Grid α) (memory : σ) (op : Op α) :
    g.Refills (op.execute ops stream params g memory).grid := by
  cases op with
  | syncParams p => exact .refl g
  | launch call kernel stageBuffer work =>
    exact refills_executeLaunch ops.overflow params call kernel stageBuffer work g
  | evaluateRhs call input output =>
    simp only [execute, executeRhs]
    cases g.functions.buffers.pair? input output with
    | none => exact .refl g
    | some p => exact g.refills_setBuffer output _
  | applyRadiation call input output =>
    simp only [execute, executeRadiation]
    cases g.functions.buffers.pair? input output with
    | none => exact .refl g
    | some p => exact g.refills_setBuffer output _
  | applyBoundary call target => exact g.refills_setBuffer target _

/-- **The kernel of a stage, under parameters of the grid**: the elementwise update if launch and
buffers are as long as the parameters say, and nothing written otherwise. -/
theorem Op.executeLaunch_own {overflow : Overflow} {p : Params α} {g : Grid α}
    (hid : p.grid = g.id) {covered : Nat}
    (hproduct : Word.product? overflow p.points g.functions.fields = some covered)
    (call : StageCall α) (stage : Stage α) (work : Launch) :
    executeLaunch overflow (some p) call stage.kernel stage.rhsOutput work g
      = if work.total ≠ covered then
          (.failed (.dispatch ⟨call.kernel, call.number, g.id,
            .bufferMismatch work.total covered⟩), g)
        else if work.total = g.functions.points * g.functions.fields then
          (.done, g.setBuffers
            (g.functions.buffers.mapCells (stage.kernel.scale call.dt).apply stage.rhsOutput))
        else (.failed (.dispatch ⟨call.kernel, call.number, g.id,
          .bufferMismatch work.total (g.functions.points * g.functions.fields)⟩), g) := by
  have hrun := g.functions.buffers.runKernelInPlace?_stageOutput stage.index stage.kernel call.dt
    work
  simp only [executeLaunch, Option.filter, hid, decide_true, if_true, hproduct, Stage.rhsOutput,
    hrun]
  split
  · rfl
  · by_cases hfit : work.total = g.functions.points * g.functions.fields
    · rw [if_pos hfit, if_pos hfit]
    · rw [if_neg hfit, if_neg hfit]
      rfl

namespace Binding

/-- A launch over the whole of a grid covers what the grid's parameters say. -/
theorem executeLaunch_eq {b : Binding α} {blockSize : Nat} {stage : Stage α} {work : Launch}
    (h : b.launch blockSize stage = .ok work) {g : Grid α} (hg : b.Fits g) (overflow : Overflow)
    (call : StageCall α) :
    Op.executeLaunch overflow (some (.ofDescriptor b.descriptor)) call stage.kernel
        stage.rhsOutput work g
      = if work.total = g.functions.points * g.functions.fields then
          (.done, g.setBuffers
            (g.functions.buffers.mapCells (stage.kernel.scale call.dt).apply stage.rhsOutput))
        else (.failed (.dispatch ⟨call.kernel, call.number, g.id,
          .bufferMismatch work.total (g.functions.points * g.functions.fields)⟩), g) := by
  have hid : (Params.ofDescriptor b.descriptor).grid = g.id := by rw [Grid.id, hg.descriptor]; rfl
  have hmul : Word.mul? (Params.ofDescriptor b.descriptor).points g.functions.fields
      = some work.total := hg.fields ▸ mul?_of_launch h
  rw [Op.executeLaunch_own hid (Word.product?_of_mul? overflow hmul), if_neg fun hne => hne rfl]

/-- A verdict an operation of a stage can have, if no collaborator crashes: `done`, or an error that
names the stage. -/
def Ordinary (call : StageCall α) (v : Verdict) : Prop :=
  v = .done ∨ ∃ error, v = .failed error ∧ error.stage? = some call.number

omit [Scalar α] in
theorem ordinary_of_outcome {call : StageCall α} {wrap : EvalError → StepError}
    (hw : ∀ reason, (wrap reason).stage? = some call.number) {o : Outcome} (h : o ≠ .crashed) :
    Ordinary call (o.verdict wrap) := by
  cases o with
  | done => exact .inl rfl
  | failed reason => exact .inr ⟨_, rfl, hw reason⟩
  | crashed => exact absurd rfl h

end Binding

/-- **The operations that can be asked for on a grid** of a pool, with the values of a stage. -/
inductive Op.IsCall (d : Descriptor α) (call : StageCall α) : Op α → Prop where
  | sync : IsCall d call (.sync d)
  | rates (stage : Stage α) : IsCall d call (.rates stage call)
  | radiation (stage : Stage α) : IsCall d call (.radiation stage call)
  | kernel (stage : Stage α) (work : Launch) : IsCall d call (.kernel stage call work)
  | boundary (stage : Stage α) : IsCall d call (.boundary stage call)

/-- **A launch at which the machine stops**: under parameters of the grid, their number of points
times the number of fields does not fit a word. -/
structure Op.Oversized (ops : Operators σ α) (params : Option (Params α)) (g : Grid α) (op : Op α) :
    Prop where
  stops : ops.overflow = .stops
  launch : ∃ stage call work, op = .kernel stage call work
  size : ∃ p, params = some p ∧ p.grid = g.id ∧ Word.limit ≤ p.points * g.functions.fields

/-- A launch ends in the ordinary way, whatever is installed, unless the machine stops at it. -/
theorem Op.ordinary_executeLaunch {ops : Operators σ α} {params : Option (Params α)} {g : Grid α}
    {stage : Stage α} {call : StageCall α} {work : Launch}
    (h : ¬ Oversized ops params g (.kernel stage call work)) :
    Binding.Ordinary call
      (executeLaunch ops.overflow params call stage.kernel stage.rhsOutput work g).1 := by
  rcases params with _ | p
  · exact .inr ⟨_, rfl, rfl⟩
  · by_cases hid : p.grid = g.id
    · cases hproduct : Word.product? ops.overflow p.points g.functions.fields with
      | none =>
        obtain ⟨hstops, hsize⟩ := Word.product?_eq_none.mp hproduct
        exact absurd ⟨hstops, ⟨stage, call, work, rfl⟩, p, rfl, hid, hsize⟩ h
      | some covered =>
        rw [executeLaunch_own hid hproduct]
        split
        · exact .inr ⟨_, rfl, rfl⟩
        · split
          · exact .inl rfl
          · exact .inr ⟨_, rfl, rfl⟩
    · simp only [executeLaunch, Option.filter, hid, decide_false, Bool.false_eq_true, if_false]
      exact .inr ⟨_, rfl, rfl⟩

/-- **An operation ends in the ordinary way, if no collaborator crashes on its grid** and the
machine does not stop at it. -/
theorem Op.IsCall.ordinary {ops : Operators σ α} {d : Descriptor α} {call : StageCall α} {op : Op α}
    (hop : op.IsCall d call) {g : Grid α} (hc : ops.NeverCrashOn g) (stream : StreamIndex)
    {params : Option (Params α)} (hsize : ¬ op.Oversized ops params g) (memory : σ) :
    Binding.Ordinary call (op.execute ops stream params g memory).verdict := by
  cases hop with
  | sync => exact .inl rfl
  | rates stage =>
    simp only [Op.rates, execute, executeRhs,
      g.functions.buffers.pair?_of_ne stage.rhsInput_ne_rhsOutput]
    split
    · split
      · exact .inl rfl
      · exact .inr ⟨_, rfl, rfl⟩
    · exact Binding.ordinary_of_outcome (fun _ => rfl) (hc.rhs _ rfl rfl _ _ _)
  | radiation stage =>
    simp only [Op.radiation, execute, executeRadiation,
      g.functions.buffers.pair?_of_ne stage.rhsInput_ne_rhsOutput]
    exact Binding.ordinary_of_outcome (fun _ => rfl) (hc.radiation _ rfl rfl _ _ _)
  | kernel stage work => exact ordinary_executeLaunch hsize
  | boundary stage => exact Binding.ordinary_of_outcome (fun _ => rfl) (hc.apply _ rfl rfl _ _)

omit [Scalar α] in
theorem Operators.NeverCrashOn.refills {ops : Operators σ α} {g g' : Grid α}
    (h : ops.NeverCrashOn g) (hg : g.Refills g') : ops.NeverCrashOn g' := by
  obtain ⟨buffers, rfl⟩ := hg
  exact ⟨h.rhs, h.radiation, h.apply⟩

namespace Binding

variable {ops : Operators σ α}

omit [Scalar α] in
theorem isCall_of_mem_row {b : Binding α} {blockSize : Nat}
    {policy : Descriptor α → BoundaryPolicy} {stage : Stage α} {call : StageCall α} {op : Op α}
    (hop : op ∈ b.row blockSize policy stage call) : op.IsCall b.descriptor call := by
  rcases cases_of_mem_row blockSize policy stage call hop with rfl | rfl | ⟨_, -, rfl⟩ | rfl
  · exact .rates _
  · exact .radiation _
  · exact .kernel _ _
  · exact .boundary _

omit [Scalar α] in
/-- The machine does not stop at a launch of a row: it could be formed, so its size fits. -/
theorem not_oversized {b : Binding α} {blockSize : Nat} {policy : Descriptor α → BoundaryPolicy}
    {stage : Stage α} {call : StageCall α} {op : Op α}
    (hop : op ∈ b.row blockSize policy stage call) {g : Grid α} (hg : b.Fits g) :
    ¬ op.Oversized ops (some (.ofDescriptor b.descriptor)) g := by
  rintro ⟨-, ⟨_, _, _, hkernel⟩, p, hp, -, hsize⟩
  obtain rfl := Option.some.inj hp
  rcases cases_of_mem_row blockSize policy stage call hop with rfl | rfl | ⟨work, hwork, rfl⟩ | rfl
  · cases hkernel
  · cases hkernel
  · obtain ⟨hpoints, hlt⟩ := Word.mul?_eq_some.mp (mul?_of_launch hwork)
    rw [hg.fields] at hsize
    exact absurd (hpoints ▸ hsize) (Nat.not_le.mpr hlt)
  · cases hkernel

/-- An operation of a row, on a grid of the right shape, ends in the ordinary way. -/
theorem ordinary_execute {g : Grid α} (hc : ops.NeverCrashOn g) {b : Binding α} {blockSize : Nat}
    {policy : Descriptor α → BoundaryPolicy} {stage : Stage α} {call : StageCall α} {op : Op α}
    (hop : op ∈ b.row blockSize policy stage call) (hg : b.Fits g) (memory : σ) :
    Ordinary call
      (op.execute ops b.stream (some (.ofDescriptor b.descriptor)) g memory).verdict :=
  (isCall_of_mem_row hop).ordinary hc b.stream (not_oversized hop hg) memory

/-- **A row ends in the ordinary way, if no collaborator crashes on its grid.** -/
theorem ordinary_row {g : Grid α} (hc : ops.NeverCrashOn g) {b : Binding α} (blockSize : Nat)
    (policy : Descriptor α → BoundaryPolicy) (stage : Stage α) (call : StageCall α) (hg : b.Fits g)
    (memory : σ) :
    Ordinary call (b.outcome ops (b.row blockSize policy stage call) g memory).verdict :=
  (Op.executeAll_invariant (I := g.Refills) (Q := Ordinary call) ops _ _ (.inl rfl)
    (fun op hop _ memory hr => ⟨hr.trans (Op.refills_execute ops _ _ _ memory op),
      ordinary_execute (hc.refills hr) hop (hg.refills hr) memory⟩) g memory (.refl g)).2

end Binding

/-- **A row writes buffers only.** -/
theorem Binding.refills_outcome (ops : Operators σ α) (b : Binding α) (l : List (Op α)) (g : Grid α)
    (memory : σ) : g.Refills (b.outcome ops l g memory).grid :=
  (Op.executeAll_invariant (I := g.Refills) (Q := fun _ => True) ops _ _ trivial
    (fun op _ _ memory hg => ⟨hg.trans (Op.refills_execute ops _ _ _ memory op), trivial⟩)
    g memory (.refl g)).1

end Ends

end MethodOfLines
