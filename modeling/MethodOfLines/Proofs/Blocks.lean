import MethodOfLines.Proofs.Elementwise
import MethodOfLines.Scalar.Rational

/-!
# Proofs/Blocks — blocks in any order, of any size

Whatever lists every element once has the effect of the elementwise update
(`Operands.foldl_update_of_perm`): blocks in any order, blocks whose elements are interleaved,
blocks of another size.  `StageKernel.Advances` says what a kernel does to one element in terms of
the numbers of its stage, and `StageKernel.run_advances_every_element` puts this together with how a
launch is divided and with the refusal of buffers of another length.
-/

namespace MethodOfLines

/-! ## Launches -/

namespace Launch

/-- A block starts inside the launch just when it is one of its blocks. -/
theorem mul_blockSize_lt_iff (l : Launch) (j : Nat) : j * l.blockSize < l.total ↔ j < l.blocks := by
  have hpos := l.blockSize_pos
  rw [blocks, blocksFor, ← Nat.succ_le_iff (m := j), Nat.le_div_iff_mul_le hpos, Nat.succ_mul]
  omega

/-- **A launch has as many blocks with elements in them as it has blocks.** -/
theorem block_ne_nil_iff (l : Launch) (j : Nat) : l.block j ≠ [] ↔ j < l.blocks := by
  have hpos := l.blockSize_pos
  rw [← l.mul_blockSize_lt_iff, block, ne_eq, List.range'_eq_nil_iff]
  omega

/-- Every block but the last is full. -/
theorem length_block (l : Launch) {j : Nat} (h : j + 1 < l.blocks) :
    (l.block j).length = l.blockSize := by
  have hnext := (l.mul_blockSize_lt_iff (j + 1)).mpr h
  rw [Nat.succ_mul] at hnext
  rw [block, List.length_range']
  omega

end Launch

/-! ## Elements in any order -/

namespace Operands

variable {α : Type} {ny nk nt : Nat}

/-- `actual` is the length of the first buffer, in the order state, stage, total, that is not `n`
elements long. -/
def FirstMisfit (_ : Operands α ny nk nt) (n actual : Nat) : Prop :=
  ny ≠ n ∧ actual = ny
    ∨ ny = n ∧ nk ≠ n ∧ actual = nk
    ∨ ny = n ∧ nk = n ∧ nt ≠ n ∧ actual = nt

theorem misfit?_eq_some_iff (o : Operands α ny nk nt) {n actual : Nat} :
    o.misfit? n = some actual ↔ o.FirstMisfit n actual := by
  by_cases hy : ny = n <;> by_cases hk : nk = n <;> by_cases ht : nt = n <;>
    simp [misfit?, FirstMisfit, hy, hk, ht, eq_comm (a := actual)]

theorem exists_firstMisfit (o : Operands α ny nk nt) {n : Nat}
    (h : ¬(ny = n ∧ nk = n ∧ nt = n)) : ∃ actual, o.FirstMisfit n actual := by
  unfold FirstMisfit
  by_cases hy : ny = n
  · by_cases hk : nk = n
    · exact ⟨nt, .inr (.inr ⟨hy, hk, fun ht => h ⟨hy, hk, ht⟩, rfl⟩)⟩
    · exact ⟨nk, .inr (.inl ⟨hy, hk, rfl⟩)⟩
  · exact ⟨ny, .inl ⟨hy, rfl⟩⟩

/-- Three buffers of five elements, with nines in the running total. -/
def five : Operands Rat 5 5 5 :=
  ⟨#v[1, 2, 3, 4, 5], #v[0, 1, 0, 1, 7], .replicate 5 9⟩

end Operands

namespace StageKernel

variable {α : Type} [Scalar α] {ny nk nt : Nat}

theorem runInPlace_of_firstMisfit (kernel : StageKernel α) (dt : α) {launch : Launch}
    {o : Operands α ny nk nt} {actual : Nat} (h : o.FirstMisfit launch.total actual) :
    kernel.runInPlace dt launch o = (.error (.bufferMismatch launch.total actual), o) := by
  rw [runInPlace, o.misfit?_eq_some_iff.mpr h]

/-! ## What a kernel does to one element -/

/-- **One element under a kernel, old and new**: the stage buffer holds the rates, the weights are
multiplied by the step, and every number on the right is an old one. -/
def Advances (dt : α) (old new : Cell α) : StageKernel α → Prop
  | single b =>
    new.state = Scalar.fma (b * dt) old.stage old.state
      ∧ new.stage = old.stage ∧ new.total = old.total
  | first b next =>
    new.state = old.state
      ∧ new.stage = Scalar.fma (next * dt) old.stage old.state
      ∧ new.total = b * dt * old.stage
  | intermediate b next =>
    new.state = old.state
      ∧ new.stage = Scalar.fma (next * dt) old.stage old.state
      ∧ new.total = Scalar.fma (b * dt) old.stage old.total
  | final b =>
    new.state = old.total + Scalar.fma (b * dt) old.stage old.state
      ∧ new.stage = old.stage ∧ new.total = old.total

theorem advances_apply_scale (kernel : StageKernel α) (dt : α) (cell : Cell α) :
    kernel.Advances dt cell ((kernel.scale dt).apply cell) := by
  cases kernel <;> exact ⟨rfl, rfl, rfl⟩

/-- **A kernel run in blocks is the plain elementwise update.**  The blocks of a launch are as many
as it says, none is empty, all but the last are full, and together they list the elements in order.
On three buffers as long as the launch a run succeeds and every element is the documented function
of its own old values; blocks in another order, their elements interleaved in any way, and blocks of
another size leave the same.  If a buffer has another length, the run is refused with the first such
length and nothing changes. -/
theorem run_advances_every_element (kernel : StageKernel α) (dt : α) {total blockSize : Nat}
    {launch : Launch} (hl : Launch.make total blockSize = .ok launch) :
    ((List.range launch.blocks).flatMap launch.block = List.range total
      ∧ (∀ j, launch.block j ≠ [] ↔ j < launch.blocks)
      ∧ ∀ j, j + 1 < launch.blocks → (launch.block j).length = blockSize)
    ∧ (∀ o : Operands α total total total, ∃ o', kernel.runInPlace dt launch o = (.ok (), o')
      ∧ (∀ i (hi : i < total), kernel.Advances dt (o.cell i hi) (o'.cell i hi))
      ∧ (∀ order : List Nat, order.Perm (List.range launch.blocks) →
          (kernel.scale dt).runBlocks launch order o = o')
      ∧ (∀ elements : List Nat, elements.Perm (List.range total) →
          elements.foldl (·.update (kernel.scale dt).apply ·) o = o')
      ∧ ∀ {size : Nat} {other : Launch}, Launch.make total size = .ok other →
          kernel.runInPlace dt other o = (.ok (), o'))
    ∧ ∀ {ny nk nt : Nat} (o : Operands α ny nk nt), ¬(ny = total ∧ nk = total ∧ nt = total) →
        ∃ actual, o.FirstMisfit total actual
          ∧ kernel.runInPlace dt launch o = (.error (.bufferMismatch total actual), o) := by
  obtain ⟨rfl, rfl⟩ := Launch.of_make hl
  refine ⟨⟨launch.flatMap_block, launch.block_ne_nil_iff, fun _ => launch.length_block⟩,
    fun o => ?_, fun o hlengths => ?_⟩
  · refine ⟨o.mapCells (kernel.scale dt).apply, kernel.runInPlace_eq_mapCells dt launch o rfl,
      fun i hi => ?_, fun order horder => runBlocks_of_perm _ horder o rfl,
      fun elements helements => Operands.foldl_update_of_perm _ helements o, fun hother => ?_⟩
    · rw [Operands.cell_mapCells]
      exact kernel.advances_apply_scale dt _
    · exact kernel.runInPlace_eq_mapCells dt _ o (Launch.of_make hother).1
  · obtain ⟨actual, hactual⟩ := o.exists_firstMisfit hlengths
    exact ⟨actual, hactual, kernel.runInPlace_of_firstMisfit dt hactual⟩

/-- Five elements in blocks of two, the last block first: the element of the short block is
`5 + (3 * 2) * 7`, and a stage buffer of four elements is refused. -/
theorem run_advances_every_element_five : ∃ launch, Launch.make 5 2 = .ok launch
    ∧ launch.blocks = 3
    ∧ (∃ o', (first (1 / 2) 3 : StageKernel Rat).runInPlace 2 launch
          Operands.five = (.ok (), o')
        ∧ ((first (1 / 2) 3 : StageKernel Rat).scale 2).runBlocks launch [2, 0, 1]
          Operands.five = o'
        ∧ o'.state[4] = 5 ∧ o'.stage[4] = 47 ∧ o'.total[4] = 7)
    ∧ (first (1 / 2) 3 : StageKernel Rat).runInPlace 2 launch
        (⟨Operands.five.state, #v[0, 1, 0, 1], .replicate 6 9⟩ : Operands Rat 5 4 6)
      = (.error (.bufferMismatch 5 4), ⟨Operands.five.state, #v[0, 1, 0, 1], .replicate 6 9⟩) := by
  have hmake : Launch.make 5 2 = .ok ⟨5, 2, Nat.succ_pos 4, Nat.two_pos,
      Nat.le_of_ble_eq_true rfl, Nat.le_of_ble_eq_true rfl⟩ := rfl
  obtain ⟨-, hrun, hrefused⟩ :=
    run_advances_every_element (first (1 / 2) 3 : StageKernel Rat) 2 hmake
  refine ⟨_, hmake, rfl, ?_, ?_⟩
  · obtain ⟨o', ho', hadvances, hblocks, -, -⟩ := hrun Operands.five
    obtain ⟨hstate, hstage, htotal⟩ := hadvances 4 (Nat.lt_succ_self 4)
    refine ⟨o', ho', hblocks _ (by decide), hstate.trans rfl, hstage.trans ?_, htotal.trans ?_⟩
    · decide +kernel
    · decide +kernel
  · obtain ⟨actual, hactual, herror⟩ := hrefused
      (⟨Operands.five.state, #v[0, 1, 0, 1], .replicate 6 9⟩ : Operands Rat 5 4 6) (by decide)
    rcases hactual with ⟨hstate, -⟩ | ⟨-, -, rfl⟩ | ⟨-, hstage, -⟩
    · exact absurd rfl hstate
    · exact herror
    · exact absurd hstage (by decide)

end StageKernel

end MethodOfLines
