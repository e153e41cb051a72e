import Mathlib
import MethodOfLines.Proofs.Blocks
import MethodOfLines.Proofs.Dispatch
import MethodOfLines.Proofs.Shape

/-!
# Proofs/Coverage — which launches are formed, and what their blocks cover

A launch carries its limits, so it is formed from the numbers that keep them and from no others
(`Launch.exists_make_iff`); over a grid the count of its elements has to fit a word besides.  The
number of blocks comes from a division that rounds up, and all that is needed of it is that block
`j` starts inside the launch just when it is one of its blocks (`Launch.mul_blockSize_lt_iff`).  An
element stands in the block that is its quotient by the block size (`Launch.mem_stretch_iff`), hence
in one block and no other.
-/

namespace MethodOfLines

namespace Launch

variable {total size : Nat} {l : Launch}

/-! ## Numbers that make a launch -/

/-- A launch is formed from its own numbers. -/
theorem make_self (l : Launch) : make l.total l.blockSize = .ok l := by
  have hsize : ¬(l.blockSize = 0 ∨ maxBlockSize < l.blockSize) :=
    not_or.mpr ⟨l.blockSize_pos.ne', Nat.not_lt.mpr l.blockSize_le⟩
  rw [make, dif_neg l.total_pos.ne', dif_neg hsize, dif_neg (Nat.not_lt.mpr l.blocks_le)]

/-- **The launches that are formed** have elements, an allowed block size and few enough blocks. -/
theorem exists_make_iff : (∃ l, make total size = .ok l) ↔
    1 ≤ total ∧ (1 ≤ size ∧ size ≤ 1024) ∧ total ⌈/⌉ size ≤ 2 ^ 31 - 1 := by
  constructor
  · rintro ⟨l, hl⟩
    obtain ⟨rfl, rfl⟩ := of_make hl
    rw [← blocksFor_eq_ceilDiv _ l.blockSize_pos]
    exact ⟨l.total_pos, ⟨l.blockSize_pos, l.blockSize_le⟩, l.blocks_le⟩
  · rintro ⟨htotal, ⟨hpos, hle⟩, hblocks⟩
    rw [← blocksFor_eq_ceilDiv _ hpos] at hblocks
    exact ⟨_, make_self ⟨total, size, htotal, hpos, hle, hblocks⟩⟩

/-- **Larger blocks cover what smaller ones do**: there are not more of them. -/
theorem exists_make_of_le (h : ∃ l, make total size = .ok l) {larger : Nat} (hle : size ≤ larger)
    (hmax : larger ≤ 1024) : ∃ l, make total larger = .ok l := by
  obtain ⟨htotal, ⟨hpos, -⟩, hblocks⟩ := exists_make_iff.mp h
  refine exists_make_iff.mpr ⟨htotal, ⟨hpos.trans hle, hmax⟩, ?_⟩
  rw [ceilDiv_le_iff_le_mul hpos] at hblocks
  rw [ceilDiv_le_iff_le_mul (hpos.trans hle)]
  exact hblocks.trans (Nat.mul_le_mul_right _ hle)

section Grid

variable {α : Type} {d : Descriptor α} {fields : Nat}

/-- A launch over a grid whose elements can be counted is a launch over them. -/
theorem forGrid_of_lt (h : d.points * fields < Word.limit) :
    forGrid d fields size = make (d.points * fields) size := by
  rw [forGrid, Word.mul?_eq_some.mpr ⟨rfl, h⟩]

/-- A launch over a grid covers elements that can be counted. -/
theorem make_of_forGrid (h : forGrid d fields size = .ok l) :
    d.points * fields < Word.limit ∧ make (d.points * fields) size = .ok l := by
  obtain ⟨htotal, hlt⟩ := Word.mul?_eq_some.mp (mul?_of_forGrid h)
  rw [← htotal] at hlt
  exact ⟨hlt, forGrid_of_lt hlt ▸ h⟩

/-- **The grids that can be launched**, over the natural numbers. -/
theorem exists_forGrid_iff : (∃ l, forGrid d fields size = .ok l) ↔
    (1 ≤ d.points * fields ∧ d.points * fields ≤ 2 ^ 64 - 1) ∧ (1 ≤ size ∧ size ≤ 1024)
      ∧ (d.points * fields) ⌈/⌉ size ≤ 2 ^ 31 - 1 := by
  have hlimit : d.points * fields ≤ 2 ^ 64 - 1 ↔ d.points * fields < Word.limit :=
    Nat.le_sub_one_iff_lt (by decide)
  rw [hlimit]
  constructor
  · rintro ⟨l, hl⟩
    obtain ⟨hlt, hmake⟩ := make_of_forGrid hl
    obtain ⟨htotal, hrest⟩ := exists_make_iff.mp ⟨l, hmake⟩
    exact ⟨⟨htotal, hlt⟩, hrest⟩
  · rintro ⟨⟨htotal, hlt⟩, hrest⟩
    rw [forGrid_of_lt hlt]
    exact exists_make_iff.mpr ⟨htotal, hrest⟩

end Grid

/-! ## Blocks that cover the elements -/

/-- **The elements from `j * size` up to the next multiple**, as far as there are any. -/
def stretch (total size j : Nat) : Set Nat := Set.Ico (j * size) (min ((j + 1) * size) total)

/-- An element stands in the stretch that is its quotient. -/
theorem mem_stretch_iff (hpos : 0 < size) {i j : Nat} :
    i ∈ stretch total size j ↔ i < total ∧ i / size = j := by
  rw [stretch, Set.mem_Ico, Nat.div_eq_iff hpos, Nat.succ_mul]
  omega

/-- What a block lists is a stretch of the elements. -/
theorem mem_block_iff {i j : Nat} : i ∈ l.block j ↔ i ∈ stretch l.total l.blockSize j := by
  rw [block, List.mem_range'_1, stretch, Set.mem_Ico, Nat.succ_mul]
  omega

/-- **The number of blocks is the only one that is enough and not too many.** -/
theorem eq_blocks_iff {n : Nat} :
    (n - 1) * l.blockSize < l.total ∧ l.total ≤ n * l.blockSize ↔ n = l.blocks := by
  have hfirst : 0 < l.blocks := (l.mul_blockSize_lt_iff 0).mp (by simpa using l.total_pos)
  -- In terms of block numbers the two inequalities say `n - 1 < l.blocks ≤ n`.
  rw [← Nat.not_lt, l.mul_blockSize_lt_iff, l.mul_blockSize_lt_iff]
  omega

theorem stretch_nonempty {j : Nat} (h : j < l.blocks) :
    (stretch l.total l.blockSize j).Nonempty := by
  refine ⟨j * l.blockSize, (mem_stretch_iff l.blockSize_pos).mpr ?_⟩
  exact ⟨(l.mul_blockSize_lt_iff j).mpr h, Nat.mul_div_left j l.blockSize_pos⟩

theorem pairwiseDisjoint_stretch (hpos : 0 < size) (s : Set Nat) :
    s.PairwiseDisjoint (stretch total size) := by
  intro j _ j' _ hne
  refine Set.disjoint_left.mpr fun i hi hi' => hne ?_
  rw [← ((mem_stretch_iff hpos).mp hi).2, ((mem_stretch_iff hpos).mp hi').2]

theorem iUnion_stretch (l : Launch) :
    ⋃ j ∈ Set.Iio l.blocks, stretch l.total l.blockSize j = Set.Iio l.total := by
  ext i
  simp only [Set.mem_iUnion, Set.mem_Iio, mem_stretch_iff l.blockSize_pos, exists_prop]
  constructor
  · rintro ⟨j, -, hi, -⟩
    exact hi
  · intro hi
    refine ⟨i / l.blockSize, (l.mul_blockSize_lt_iff _).mp ?_, hi, rfl⟩
    exact (Nat.div_mul_le_self i l.blockSize).trans_lt hi

/-- **Launches cover the elements exactly.**  Over a grid a launch is formed if the true number of
elements is neither zero nor beyond a word, the block size is allowed and the blocks are not too
many; otherwise the launch is invalid.  The number of blocks of a launch is the only one that covers
its elements with none to spare; the stretches they list are not empty, do not meet and are together
all elements.  What blocks of one size can cover, larger ones can, up to the largest allowed. -/
theorem covers_exactly {α : Type} (d : Descriptor α) (fields blockSize : Nat) :
    ((∃ l, forGrid d fields blockSize = .ok l) ↔
      (1 ≤ d.points * fields ∧ d.points * fields ≤ 2 ^ 64 - 1) ∧ (1 ≤ blockSize ∧ blockSize ≤ 1024)
        ∧ (d.points * fields) ⌈/⌉ blockSize ≤ 2 ^ 31 - 1)
    ∧ (∀ fault, forGrid d fields blockSize = .error fault → ∃ reason, fault = .invalidLaunch reason)
    ∧ (∀ l, forGrid d fields blockSize = .ok l → make (d.points * fields) blockSize = .ok l)
    ∧ ∀ {total size : Nat} {l : Launch}, make total size = .ok l →
      (∀ n, (n - 1) * size < total ∧ total ≤ n * size ↔ n = l.blocks)
      ∧ (∀ i j, i ∈ l.block j ↔ i ∈ stretch total size j)
      ∧ (∀ j < l.blocks, (stretch total size j).Nonempty)
      ∧ (Set.Iio l.blocks).PairwiseDisjoint (stretch total size)
      ∧ ⋃ j ∈ Set.Iio l.blocks, stretch total size j = Set.Iio total
      ∧ ∀ larger, size ≤ larger → larger ≤ 1024 → ∃ l', make total larger = .ok l' := by
  refine ⟨exists_forGrid_iff, fun _ => exists_reason_of_forGrid,
    fun _ h => (make_of_forGrid h).2, ?_⟩
  intro total size l hl
  obtain ⟨rfl, rfl⟩ := of_make hl
  exact ⟨fun _ => eq_blocks_iff, fun _ _ => mem_block_iff, fun _ => stretch_nonempty,
    pairwiseDisjoint_stretch l.blockSize_pos _, l.iUnion_stretch,
    fun _ => exists_make_of_le ⟨l, hl⟩⟩

/-- A row of `2^31` points is one too many for blocks of one element and is covered by `2^30` blocks
of two, hence by blocks of a thousand.  Two fields on `2^63 + 1` points are not covered: their count
does not come round to two. -/
theorem covers_exactly_row : ∃ d d' : Descriptor Rat,
    Descriptor.make 0 ⟨2 ^ 31, 1, 1⟩ 0 = .ok d ∧ Descriptor.make 1 ⟨2 ^ 63 + 1, 1, 1⟩ 0 = .ok d'
      ∧ (¬∃ l, forGrid d 1 1 = .ok l)
      ∧ (∃ l, forGrid d 1 2 = .ok l ∧ l.blocks = 2 ^ 30
        ∧ 2 ^ 31 - 1 ∈ l.block (2 ^ 30 - 1) ∧ ∃ l', make (2 ^ 31) 1000 = .ok l')
      ∧ ¬∃ l, forGrid d' 2 1024 = .ok l := by
  have hrow : ∃ d : Descriptor Rat, Descriptor.make 0 ⟨2 ^ 31, 1, 1⟩ 0 = .ok d :=
    Descriptor.exists_make_eq_ok.mpr ⟨by decide, by decide⟩
  have hlong : ∃ d : Descriptor Rat, Descriptor.make 1 ⟨2 ^ 63 + 1, 1, 1⟩ 0 = .ok d :=
    Descriptor.exists_make_eq_ok.mpr ⟨by decide, by decide⟩
  obtain ⟨⟨d, hd⟩, ⟨d', hd'⟩⟩ := And.intro hrow hlong
  have hpoints : d.points = 2 ^ 31 := (Descriptor.points_of_make hd).trans (by decide)
  have hpoints' : d'.points = 2 ^ 63 + 1 := (Descriptor.points_of_make hd').trans (by decide)
  refine ⟨d, d', hd, hd', ?_, ?_, ?_⟩
  · rw [(covers_exactly d 1 1).1, hpoints]
    decide
  · obtain ⟨hformed, -, hmake, hcovers⟩ := covers_exactly d 1 2
    rw [hpoints] at hformed hmake
    obtain ⟨l, hl⟩ := hformed.mpr (by decide)
    obtain ⟨hblocks, hlisted, -, -, -, hlarger⟩ := hcovers (hmake l hl)
    have hcount : 2 ^ 30 = l.blocks := (hblocks _).mp (by decide)
    exact ⟨l, hl, hcount.symm, (hlisted _ _).mpr ⟨by decide, by decide⟩,
      hlarger 1000 (by decide) (by decide)⟩
  · rw [(covers_exactly d' 2 1024).1, hpoints']
    decide

end Launch

end MethodOfLines
