import Mathlib.Data.List.Basic
import MethodOfLines.Proofs.Pool

/-!
# Proofs/Spawn — a pool when it starts, and at the end of a stage

A new pool holds every grid of its list, in the slot that is its position, on the stream that is its
id modulo the size of the pool (`Pool.grid?_spawn`), and the streams stand in increasing order
(`Pool.indices_spawn_sorted`).  A fence reads where the streams stand, in that order, and leaves the
grids alone.
-/

namespace MethodOfLines

variable {σ α : Type}

/-! ## Increasing lists of streams -/

namespace Stream

theorem mem_insertIndex {s t : StreamIndex} {l : List StreamIndex} :
    s ∈ insertIndex t l ↔ s = t ∨ s ∈ l := by
  induction l with
  | nil => simp [insertIndex]
  | cons u l ih =>
    unfold insertIndex
    split
    · simp
    · split
      · next h => subst h; simp
      · simp only [List.mem_cons, ih]
        grind

theorem pairwise_insertIndex {t : StreamIndex} {l : List StreamIndex} (h : l.Pairwise (· < ·)) :
    (insertIndex t l).Pairwise (· < ·) := by
  induction l with
  | nil => simp [insertIndex]
  | cons u l ih =>
    obtain ⟨hu, hl⟩ := List.pairwise_cons.mp h
    unfold insertIndex
    split
    · next htu =>
      refine List.pairwise_cons.mpr ⟨fun v hv => ?_, h⟩
      rcases List.mem_cons.mp hv with rfl | hv
      · exact htu
      · exact Nat.lt_trans htu (hu v hv)
    · next hut =>
      split
      · exact h
      · next hne =>
        refine List.pairwise_cons.mpr ⟨fun v hv => ?_, ih hl⟩
        rcases mem_insertIndex.mp hv with rfl | hv
        · exact Nat.lt_of_le_of_ne (Nat.le_of_not_lt hut) (Ne.symm hne)
        · exact hu v hv

theorem mem_indices {s : StreamIndex} {bs : List (Binding α)} :
    s ∈ indices bs ↔ ∃ b ∈ bs, b.stream = s := by
  induction bs with
  | nil => simp [indices]
  | cons b bs ih =>
    rw [indices, List.foldr_cons, mem_insertIndex]
    rw [indices] at ih
    rw [ih]
    simp [eq_comm]

/-- **The streams in use are listed in increasing order.** -/
theorem pairwise_indices (bs : List (Binding α)) : (indices bs).Pairwise (· < ·) := by
  induction bs with
  | nil => exact .nil
  | cons b bs ih => exact pairwise_insertIndex ih

end Stream

/-! ## A new pool -/

namespace Pool

/-- The place in a pool of a grid with its slot. -/
def bind (size : Nat) (entry : Nat × Grid α) : Binding α := .ofGrid size entry.1 entry.2

theorem bindings_spawn (size : Nat) (grids : List (Grid α)) (memory : σ) :
    (spawn size grids memory).bindings = (slots grids).map (bind size) := rfl

theorem map_fst_slots (grids : List (Grid α)) :
    (slots grids).map Prod.fst = List.range grids.length := by
  rw [slots, List.map_map]
  exact List.zipIdx_map_snd 0 grids |>.trans (List.range_eq_range' ..).symm

@[simp] theorem map_snd_slots (grids : List (Grid α)) : (slots grids).map Prod.snd = grids := by
  rw [slots, List.map_map]
  exact List.zipIdx_map_fst 0 grids

theorem length_slots (grids : List (Grid α)) : (slots grids).length = grids.length := by
  rw [← List.length_map Prod.snd, map_snd_slots]

theorem nodup_slots (grids : List (Grid α)) : ((slots grids).map Prod.fst).Nodup := by
  rw [map_fst_slots]
  exact List.nodup_range

theorem mem_slots {grids : List (Grid α)} {e : Nat × Grid α} :
    e ∈ slots grids ↔ grids[e.1]? = some e.2 := by
  obtain ⟨i, g⟩ := e
  simp [slots, List.mem_zipIdx_iff_getElem?]

theorem mem_of_mem_slots {grids : List (Grid α)} {e : Nat × Grid α} (h : e ∈ slots grids) :
    e.2 ∈ grids :=
  List.mem_of_getElem? (mem_slots.mp h)

theorem eq_of_mem_slots {grids : List (Grid α)} {e e' : Nat × Grid α} (he : e ∈ slots grids)
    (he' : e' ∈ slots grids) (h : e'.1 = e.1) : e' = e := by
  rw [mem_slots] at he he'
  exact Prod.ext h (Option.some.inj (he'.symm.trans (h ▸ he)))

theorem pairwise_slots (grids : List (Grid α)) : (slots grids).Pairwise (·.1 < ·.1) := by
  have h : ((slots grids).map Prod.fst).Pairwise (· < ·) := by
    rw [map_fst_slots]
    exact List.pairwise_lt_range
  exact List.pairwise_map.mp h

theorem indices_spawn (size : Nat) (grids : List (Grid α)) (memory : σ) :
    (spawn size grids memory).indices = Stream.indices ((slots grids).map (bind size)) := by
  rw [indices, spawn, List.map_map]
  exact List.map_id _

/-- **The streams of a new pool stand in increasing order.** -/
theorem indices_spawn_sorted (size : Nat) (grids : List (Grid α)) (memory : σ) :
    (spawn size grids memory).indices.Pairwise (· < ·) := by
  rw [indices_spawn]
  exact Stream.pairwise_indices _

theorem nodup_of_sorted {l : List StreamIndex} (h : l.Pairwise (· < ·)) : l.Nodup :=
  h.imp Nat.ne_of_lt

theorem stream?_spawn (size : Nat) {grids : List (Grid α)} (memory : σ) {entry : Nat × Grid α}
    (h : entry ∈ slots grids) :
    (spawn size grids memory).stream? (bind size entry).stream
      = some (.start (bind size entry).stream
          ((slots grids).filter fun e => streamFor e.2.id size = (bind size entry).stream)) := by
  have hn := nodup_of_sorted (indices_spawn_sorted size grids memory)
  have hmem : (bind size entry).stream ∈ Stream.indices ((slots grids).map (bind size)) :=
    Stream.mem_indices.mpr ⟨_, List.mem_map_of_mem h, rfl⟩
  exact stream?_of_mem hn (List.mem_map_of_mem hmem)

/-- **A new pool holds every grid of its list.** -/
theorem grid?_spawn (size : Nat) {grids : List (Grid α)} (memory : σ) {entry : Nat × Grid α}
    (h : entry ∈ slots grids) :
    (spawn size grids memory).grid? (bind size entry) = some entry.2 := by
  rw [grid?, stream?_spawn size memory h, Option.bind_some]
  refine List.lookup_eq_some_of_mem
    ((List.filter_sublist.map Prod.fst).nodup (nodup_slots grids)) ?_
  exact List.mem_filter.mpr ⟨h, by simp [bind, Binding.ofGrid]⟩

theorem statusOf_spawn (size : Nat) (grids : List (Grid α)) (memory : σ) (s : StreamIndex) :
    (spawn size grids memory).statusOf s = .done := by
  rw [statusOf]
  cases h : (spawn size grids memory).stream? s with
  | none => rfl
  | some st =>
    obtain ⟨t, _, rfl⟩ := List.mem_map.mp (mem_of_stream? h)
    rfl

/-- The grids of a pool that holds one for every slot of the list it was started with. -/
theorem grids_eq_map_slots {pool : Pool σ α} {size : Nat} {grids : List (Grid α)}
    (hb : pool.bindings = (slots grids).map (bind size)) {F : Nat × Grid α → Grid α}
    (h : ∀ entry ∈ slots grids, pool.grid? (bind size entry) = some (F entry)) :
    pool.grids = (slots grids).map F := by
  rw [Pool.grids, hb, List.filterMap_map, ← List.filterMap_eq_map]
  exact List.filterMap_congr fun entry hentry => h entry hentry

theorem grids_eq_map {pool : Pool σ α} {size : Nat} {grids : List (Grid α)}
    (hb : pool.bindings = (slots grids).map (bind size)) {F : Grid α → Grid α}
    (h : ∀ entry ∈ slots grids, pool.grid? (bind size entry) = some (F entry.2)) :
    pool.grids = grids.map F := by
  have hsnd : grids.map F = ((slots grids).map Prod.snd).map F := by rw [map_snd_slots]
  rw [grids_eq_map_slots hb h, hsnd, List.map_map]
  rfl

/-! ## The end of a stage -/

theorem fence_snd (pool : Pool σ α) (stage : Stage α) :
    (pool.fence stage).2 = { pool with streams := pool.streams.map Stream.cleared } := by
  unfold fence
  cases pool.streams.findSome? (·.answer stage) <;> rfl

theorem stream?_fence (pool : Pool σ α) (stage : Stage α) (s : StreamIndex) :
    (pool.fence stage).2.stream? s = (pool.stream? s).map Stream.cleared := by
  rw [fence_snd, stream?, stream?, List.find?_map]
  rfl

@[simp] theorem indices_fence (pool : Pool σ α) (stage : Stage α) :
    (pool.fence stage).2.indices = pool.indices := by
  rw [fence_snd, indices, List.map_map]
  rfl

@[simp] theorem bindings_fence (pool : Pool σ α) (stage : Stage α) :
    (pool.fence stage).2.bindings = pool.bindings := by
  rw [fence_snd]

/-- **A fence leaves the grids alone.** -/
@[simp] theorem grid?_fence (pool : Pool σ α) (stage : Stage α) (b : Binding α) :
    (pool.fence stage).2.grid? b = pool.grid? b := by
  rw [grid?, stream?_fence, grid?]
  cases pool.stream? b.stream <;> rfl

/-- Where a stream stands after a fence: lost, or ready again. -/
theorem statusOf_fence {pool : Pool σ α} {s : StreamIndex} (h : pool.statusOf s ≠ .crashed)
    (stage : Stage α) : (pool.fence stage).2.statusOf s = .done := by
  rw [statusOf, stream?_fence]
  rw [statusOf] at h
  cases hs : pool.stream? s with
  | none => rfl
  | some st =>
    rw [hs, Option.map_some, Option.getD_some] at h
    have hl : st.worker.lost = false := by
      simpa using fun hl => h (Worker.status_eq_crashed.mpr hl)
    exact Worker.status_eq_done.mpr ⟨hl, rfl⟩

theorem statusOf_index {pool : Pool σ α} (hn : pool.indices.Nodup) {st : Stream α}
    (h : st ∈ pool.streams) : pool.statusOf st.index = st.worker.status := by
  rw [statusOf, stream?_of_mem hn h]
  rfl

theorem fence_fst (pool : Pool σ α) (stage : Stage α) :
    (pool.fence stage).1 = StepError.result (pool.streams.findSome? (·.answer stage)) := by
  unfold fence
  cases pool.streams.findSome? (·.answer stage) <;> rfl

/-- **A fence passes exactly when every stream stands at `done`.** -/
theorem fence_eq_ok_iff {pool : Pool σ α} (hn : pool.indices.Nodup) (stage : Stage α) :
    (pool.fence stage).1 = .ok () ↔ ∀ s, pool.statusOf s = .done := by
  have hpass : (pool.fence stage).1 = .ok ()
      ↔ ∀ st ∈ pool.streams, st.worker.status = .done := by
    rw [fence_fst, StepError.result_eq_ok, List.findSome?_eq_none_iff]
    exact forall₂_congr fun st _ => Stream.answer_eq_none
  rw [hpass]
  refine ⟨fun h s => ?_, fun h st hst => statusOf_index hn hst ▸ h st.index⟩
  rw [statusOf]
  cases hs : pool.stream? s with
  | none => rfl
  | some st => exact h st (mem_of_stream? hs)

/-- **Without a crash, a fence returns the error of the lowest stream that has one.** -/
theorem fence_eq_findSome? {pool : Pool σ α} (hn : pool.indices.Nodup)
    (hc : ∀ s, pool.statusOf s ≠ .crashed) (stage : Stage α) :
    (pool.fence stage).1
      = StepError.result (pool.indices.findSome? fun s => (pool.statusOf s).error?) := by
  have hans : pool.streams.findSome? (·.answer stage)
      = pool.indices.findSome? fun s => (pool.statusOf s).error? := by
    rw [indices, List.findSome?_map]
    refine List.findSome?_congr fun st hst => ?_
    have hst' := statusOf_index hn hst
    rw [Function.comp_apply, hst', Stream.answer_of_ne_crashed (hst' ▸ hc st.index)]
  rw [fence_fst, hans]

end Pool

end MethodOfLines
