import MethodOfLines.Failure
import MethodOfLines.Grid.Descriptor

/-!
# Launch — work cut into blocks

A launch covers `total` elements by blocks of `blockSize`; the last block may be short. Its limits
are part of the type: at least one element, blocks of 1 to 1024 elements, and fewer than `2^31`
blocks.
-/

namespace MethodOfLines

namespace Launch

/-- Elements per block when none are given. -/
def defaultBlockSize : Nat := 32

/-- Most elements per block. -/
def maxBlockSize : Nat := 1024

/-- Most blocks. -/
def maxBlocks : Nat := 2147483647

/-- Number of blocks that cover `total` elements. -/
def blocksFor (total blockSize : Nat) : Nat := (total + (blockSize - 1)) / blockSize

end Launch

/-- **A division of `total` elements into blocks.** -/
structure Launch where
  total : Nat
  blockSize : Nat
  total_pos : 0 < total
  blockSize_pos : 0 < blockSize
  blockSize_le : blockSize ≤ Launch.maxBlockSize
  blocks_le : Launch.blocksFor total blockSize ≤ Launch.maxBlocks

namespace Launch

/-- Number of blocks. -/
def blocks (l : Launch) : Nat := blocksFor l.total l.blockSize

/-- **A launch over `total` elements.** -/
def make (total blockSize : Nat) : Except DispatchFault Launch :=
  if hTotal : total = 0 then .error (.invalidLaunch "zero elements to cover")
  else if hBlock : blockSize = 0 ∨ maxBlockSize < blockSize then
    .error (.invalidLaunch s!"block size {blockSize} outside 1..={maxBlockSize}")
  else if hBlocks : maxBlocks < blocksFor total blockSize then
    .error (.invalidLaunch s!"{blocksFor total blockSize} blocks exceeds {maxBlocks}")
  else
    .ok
      { total, blockSize
        total_pos := Nat.pos_of_ne_zero hTotal
        blockSize_pos := by omega
        blockSize_le := by omega
        blocks_le := Nat.le_of_not_lt hBlocks }

theorem of_make {total blockSize : Nat} {l : Launch} (h : make total blockSize = .ok l) :
    l.total = total ∧ l.blockSize = blockSize := by
  unfold make at h
  split at h
  · cases h
  · split at h
    · cases h
    · split at h
      · cases h
      · cases h
        exact ⟨rfl, rfl⟩

/-- **A launch over every point of every field of a grid.** -/
def forGrid {α : Type} (d : Descriptor α) (fields blockSize : Nat) : Except DispatchFault Launch :=
  match Word.mul? d.points fields with
  | none => .error (.invalidLaunch "element count overflows usize")
  | some total => make total blockSize

/-- The elements of block `j`. -/
def block (l : Launch) (j : Nat) : List Nat :=
  List.range' (j * l.blockSize) (min l.blockSize (l.total - j * l.blockSize))

end Launch

end MethodOfLines
