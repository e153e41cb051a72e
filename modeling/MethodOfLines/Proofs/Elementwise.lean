import MethodOfLines.Kernel

/-!
# Proofs/Elementwise — a kernel run block by block is the plain elementwise update

The blocks of a launch, one after the other, list the elements `0, …, total - 1` once each
(`Launch.flatMap_block`).  An update of one element reads and writes that element alone, so a fold
of updates over any list without repetition applies the cell function once to each listed element
(`Operands.cell_foldl_update`), and the order of the blocks does not matter
(`StageKernel.runBlocks_of_perm`).  Hence `StageKernel.runInPlace_eq_mapCells`: the block size
leaves no trace in the result.
-/

namespace MethodOfLines

/-! ## The blocks of a launch -/

namespace Launch

theorem total_le_blocks_mul (l : Launch) : l.total ≤ l.blocks * l.blockSize := by
  have hpos := l.blockSize_pos
  have hdiv := Nat.div_add_mod (l.total + (l.blockSize - 1)) l.blockSize
  have hmod := Nat.mod_lt (l.total + (l.blockSize - 1)) hpos
  have hcomm : l.blocks * l.blockSize
      = l.blockSize * ((l.total + (l.blockSize - 1)) / l.blockSize) := Nat.mul_comm _ _
  omega

/-- The first `k` blocks list the elements below `k` times the block size. -/
theorem flatMap_block_range (l : Launch) (k : Nat) :
    (List.range k).flatMap l.block = List.range (min (k * l.blockSize) l.total) := by
  induction k with
  | zero => simp
  | succ k ih =>
    have hblock : l.block k = List.range' (k * l.blockSize)
        (min ((k + 1) * l.blockSize) l.total - min (k * l.blockSize) l.total) := by
      rw [block, Nat.succ_mul]
      congr 1
      omega
    rw [List.range_succ, List.flatMap_append, ih, List.flatMap_singleton, hblock]
    rcases Nat.le_total (k * l.blockSize) l.total with h | h
    · rw [Nat.min_eq_left h, List.range_eq_range', List.range_eq_range']
      have := List.range'_append_1 (s := 0) (m := k * l.blockSize)
        (n := min ((k + 1) * l.blockSize) l.total - k * l.blockSize)
      rw [Nat.zero_add] at this
      rw [this, Nat.add_sub_cancel']
      rw [Nat.succ_mul]
      omega
    · rw [Nat.min_eq_right h, Nat.min_eq_right (by rw [Nat.succ_mul]; omega)]
      simp

/-- **The blocks of a launch list every element once, in order.** -/
theorem flatMap_block (l : Launch) :
    (List.range l.blocks).flatMap l.block = List.range l.total := by
  rw [flatMap_block_range, Nat.min_eq_right l.total_le_blocks_mul]

/-- Blocks in any order list every element once. -/
theorem flatMap_block_perm (l : Launch) {order : List Nat}
    (h : order.Perm (List.range l.blocks)) :
    (order.flatMap l.block).Perm (List.range l.total) :=
  l.flatMap_block ▸ h.flatMap_right l.block

end Launch

/-! ## Updates of single elements -/

namespace Operands

variable {α : Type} {n : Nat}

/-- Element `i` of three buffers of one length. -/
def cell (o : Operands α n n n) (i : Nat) (h : i < n) : Cell α :=
  ⟨o.state[i], o.stage[i], o.total[i]⟩

/-- **Every element updated**, each by its old values. -/
def mapCells (f : Cell α → Cell α) (o : Operands α n n n) : Operands α n n n where
  state := .ofFn fun i => (f (o.cell i i.isLt)).state
  stage := .ofFn fun i => (f (o.cell i i.isLt)).stage
  total := .ofFn fun i => (f (o.cell i i.isLt)).total

theorem ext_cell {o o' : Operands α n n n} (h : ∀ i hi, o.cell i hi = o'.cell i hi) : o = o' := by
  obtain ⟨y, k, t⟩ := o
  obtain ⟨y', k', t'⟩ := o'
  have hy : y = y' := Vector.ext fun i hi => congrArg Cell.state (h i hi)
  have hk : k = k' := Vector.ext fun i hi => congrArg Cell.stage (h i hi)
  have ht : t = t' := Vector.ext fun i hi => congrArg Cell.total (h i hi)
  rw [hy, hk, ht]

@[simp] theorem cell_mapCells (f : Cell α → Cell α) (o : Operands α n n n) (i : Nat) (hi : i < n) :
    (o.mapCells f).cell i hi = f (o.cell i hi) := by
  simp [cell, mapCells]

/-- An update reaches its own element and no other. -/
theorem cell_update (f : Cell α → Cell α) (o : Operands α n n n) (i : Nat) {j : Nat} (hj : j < n) :
    (o.update f i).cell j hj = if i = j then f (o.cell j hj) else o.cell j hj := by
  by_cases hi : i < n
  · have hup : o.update f i =
        ⟨o.state.set i (f (o.cell i hi)).state, o.stage.set i (f (o.cell i hi)).stage,
          o.total.set i (f (o.cell i hi)).total⟩ := by
      rw [update, dif_pos ⟨hi, hi, hi⟩]
      rfl
    rw [hup]
    by_cases hij : i = j
    · subst hij
      simp [cell]
    · simp [cell, hij]
  · have hup : o.update f i = o := by rw [update, dif_neg fun h => hi h.1]
    rw [hup, if_neg (by omega)]

/-- **A fold of updates over distinct elements updates each of them once.** -/
theorem cell_foldl_update (f : Cell α → Cell α) :
    ∀ (l : List Nat), l.Nodup → ∀ (o : Operands α n n n) (j : Nat) (hj : j < n),
      (l.foldl (·.update f ·) o).cell j hj = if j ∈ l then f (o.cell j hj) else o.cell j hj := by
  intro l
  induction l with
  | nil => intro _ o j hj; simp
  | cons i l ih =>
    intro hl o j hj
    obtain ⟨hi, hl⟩ := List.nodup_cons.mp hl
    rw [List.foldl_cons, ih hl, cell_update]
    by_cases hij : i = j
    · subst hij
      simp [hi]
    · have hmem : j ∈ i :: l ↔ j ∈ l := by simp [Ne.symm hij]
      simp only [hmem, if_neg hij]

/-- **Updates of all elements, in any order**, are the elementwise update. -/
theorem foldl_update_of_perm (f : Cell α → Cell α) {elements : List Nat}
    (h : elements.Perm (List.range n)) (o : Operands α n n n) :
    elements.foldl (·.update f ·) o = o.mapCells f := by
  refine ext_cell fun j hj => ?_
  have hnodup : elements.Nodup := h.nodup_iff.mpr List.nodup_range
  have hmem : j ∈ elements := h.mem_iff.mpr (List.mem_range.mpr hj)
  rw [cell_foldl_update f elements hnodup, cell_mapCells, if_pos hmem]

end Operands

/-! ## Kernels -/

namespace StageKernel

variable {α : Type} [Scalar α] {n : Nat}

/-- The blocks of a launch over the whole of three buffers, in any order, update every element
once. -/
theorem runBlocks_of_perm (kernel : StageKernel α) {launch : Launch} {order : List Nat}
    (h : order.Perm (List.range launch.blocks)) (o : Operands α n n n) (hn : launch.total = n) :
    kernel.runBlocks launch order o = o.mapCells kernel.apply := by
  rw [runBlocks, ← List.foldl_flatMap]
  exact Operands.foldl_update_of_perm _ (hn ▸ launch.flatMap_block_perm h) o

/-- **A kernel on buffers as long as its launch is the elementwise update.** -/
theorem runInPlace_eq_mapCells (kernel : StageKernel α) (dt : α) (launch : Launch)
    (o : Operands α n n n) (h : launch.total = n) :
    kernel.runInPlace dt launch o = (.ok (), o.mapCells (kernel.scale dt).apply) := by
  have hfit : o.misfit? launch.total = none := by simp [Operands.misfit?, h]
  rw [runInPlace, hfit, runBlocks_of_perm _ (.refl _) _ h]

/-- A kernel on buffers of another length than its launch is refused. -/
theorem runInPlace_eq_error (kernel : StageKernel α) (dt : α) (launch : Launch)
    (o : Operands α n n n) (h : launch.total ≠ n) :
    kernel.runInPlace dt launch o = (.error (.bufferMismatch launch.total n), o) := by
  have hfit : o.misfit? launch.total = some n := by simp [Operands.misfit?, Ne.symm h]
  rw [runInPlace, hfit]

end StageKernel

end MethodOfLines
