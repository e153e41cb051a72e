import MethodOfLines.Proofs.Issue
import MethodOfLines.Stream.Interleaving

/-!
# Proofs/Serial — requests carried out when they are made

`Pool.serveAll` carries out a list of requests one after the other, each at the moment it is made,
and keeps the answers.  It is what a pool with queues is compared with.  With functional
collaborators the answers and the streams do not depend on what is remembered
(`Pool.serveAll_alike`), and a stream that was lost on the way is lost in the end
(`Pool.statusOf_serveAll_crashed`).
-/

namespace MethodOfLines

variable {σ α : Type}

/-- The requests still to be made after an answer. -/
def Discipline.onward (d : Discipline) (answer : Except StepError Unit) (rest : List (Request α)) :
    List (Request α) :=
  match d, answer with
  | .stop, .error _ => []
  | _, _ => rest

theorem Discipline.onward_cases (d : Discipline) (answer : Except StepError Unit)
    (rest : List (Request α)) : d.onward answer rest = rest ∨ d.onward answer rest = [] := by
  unfold onward
  split
  · exact .inr rfl
  · exact .inl rfl

namespace Pool

/-- **Pools that differ at most in what is remembered.** -/
structure Alike (p q : Pool σ α) : Prop where
  bindings : p.bindings = q.bindings
  streams : p.streams = q.streams

namespace Alike

variable {p q r : Pool σ α}

theorem refl (p : Pool σ α) : p.Alike p := ⟨rfl, rfl⟩

theorem symm (h : p.Alike q) : q.Alike p := ⟨h.bindings.symm, h.streams.symm⟩

theorem trans (h : p.Alike q) (h' : q.Alike r) : p.Alike r :=
  ⟨h.bindings.trans h'.bindings, h.streams.trans h'.streams⟩

theorem stream? (h : p.Alike q) (s : StreamIndex) : p.stream? s = q.stream? s := by
  rw [Pool.stream?, h.streams, Pool.stream?]

theorem statusOf (h : p.Alike q) (s : StreamIndex) : p.statusOf s = q.statusOf s := by
  rw [Pool.statusOf, h.stream?, Pool.statusOf]

theorem grids (h : p.Alike q) : p.grids = q.grids := by
  have hgrid : p.grid? = q.grid? := funext fun b => by rw [grid?, h.stream?, grid?]
  rw [Pool.grids, hgrid, h.bindings, Pool.grids]

theorem closing (h : p.Alike q) : p.closing = q.closing := by
  rw [Pool.closing, lostStreams, h.streams, Pool.closing, lostStreams]

theorem fence (h : p.Alike q) (stage : Stage α) :
    (p.fence stage).1 = (q.fence stage).1 ∧ (p.fence stage).2.Alike (q.fence stage).2 := by
  rw [fence_fst, fence_fst, fence_snd, fence_snd]
  exact ⟨by rw [h.streams], h.bindings, by rw [h.streams]⟩

variable [Scalar α] {ops : Operators σ α} (hf : ops.Functional)

include hf in
theorem absorb (h : p.Alike q) (b : Binding α) (op : Op α) :
    (p.absorb ops b op).Alike (q.absorb ops b op) := by
  refine ⟨by simp only [Pool.absorb, bindings_onStream, h.bindings], ?_⟩
  rw [Pool.absorb, Pool.absorb, onStream, onStream, h.stream?]
  cases q.stream? b.stream with
  | none => exact h.streams
  | some st =>
    have hst : (st.accept ops b op p.memory).1 = (st.accept ops b op q.memory).1 := by
      rw [Stream.accept, Stream.accept,
        Worker.perform_fst_congr hf st.worker b.slot op p.memory q.memory]
    simp only [setStream, hst, h.streams]

include hf in
/-- A request has the same answer on pools that are alike, and leaves them alike. -/
theorem serve (h : p.Alike q) (request : Request α) :
    (p.serve ops request).1 = (q.serve ops request).1
      ∧ (p.serve ops request).2.Alike (q.serve ops request).2 := by
  cases request with
  | fence stage => exact h.fence stage
  | submit b call op =>
    rw [serve_submit, serve_submit]
    refine ⟨?_, h.absorb hf b op⟩
    have hfst : (p.submit ops b call op).1 = (q.submit ops b call op).1 := by
      cases hst : q.stream? b.stream with
      | none =>
        have hst' := (h.stream? b.stream).trans hst
        simp only [submit, hst, hst']
      | some st =>
        rw [submit_fst ops p b call op ((h.stream? b.stream).trans hst),
          submit_fst ops q b call op hst]
    rw [hfst]

end Alike

/-- With one stream per number, an operation issued changes the stream of that number. -/
theorem streams_absorb [Scalar α] (ops : Operators σ α) {pool : Pool σ α} (hn : pool.indices.Nodup)
    (b : Binding α) (op : Op α) :
    (pool.absorb ops b op).streams = pool.streams.map fun st =>
      if st.index = b.stream then (st.accept ops b op pool.memory).1 else st := by
  rw [absorb, onStream]
  cases hst : pool.stream? b.stream with
  | none =>
    refine (List.map_id _).symm.trans (List.map_congr_left fun st hmem => ?_)
    have hne : st.index ≠ b.stream := by
      simpa using List.find?_eq_none.mp hst st hmem
    rw [if_neg hne]
    rfl
  | some st =>
    have hindex := index_of_stream? hst
    refine List.map_congr_left fun old hmem => ?_
    rw [Stream.index_accept, hindex]
    by_cases hi : old.index = b.stream
    · have hold : pool.stream? old.index = some old := stream?_of_mem hn hmem
      rw [hi, hst] at hold
      rw [if_pos hi, if_pos hi, Option.some.inj hold]
    · rw [if_neg hi, if_neg hi]

/-! ## Requests in order -/

section Serving

variable [Scalar α] (ops : Operators σ α) (d : Discipline)

/-- **Requests carried out one after the other, each when it is made**: the answers, and the pool
they leave. -/
def serveAll : List (Request α) → Pool σ α → List (Except StepError Unit) × Pool σ α
  | [], pool => ([], pool)
  | request :: rest, pool =>
    let (answer, pool) := pool.serve ops request
    match d, answer with
    | .stop, .error _ => ([answer], pool)
    | _, _ => (answer :: (serveAll rest pool).1, (serveAll rest pool).2)

theorem serveAll_cons (request : Request α) (rest : List (Request α)) (pool : Pool σ α) :
    serveAll ops d (request :: rest) pool
      = ((pool.serve ops request).1 ::
          (serveAll ops d (d.onward (pool.serve ops request).1 rest) (pool.serve ops request).2).1,
        (serveAll ops d (d.onward (pool.serve ops request).1 rest)
          (pool.serve ops request).2).2) := by
  rw [serveAll]
  match pool.serve ops request with
  | (.ok (), pool) => cases d <;> rfl
  | (.error e, pool) => cases d <;> rfl

/-- **What is remembered does not matter** to functional collaborators. -/
theorem serveAll_alike {ops : Operators σ α} (hf : ops.Functional) (requests : List (Request α)) :
    ∀ {p q : Pool σ α}, p.Alike q → (serveAll ops d requests p).1 = (serveAll ops d requests q).1
      ∧ (serveAll ops d requests p).2.Alike (serveAll ops d requests q).2 := by
  induction requests with
  | nil => exact fun h => ⟨rfl, h⟩
  | cons request rest ih =>
    intro p q h
    obtain ⟨hans, hrest⟩ := h.serve hf request
    rw [serveAll_cons, serveAll_cons, hans]
    -- after an error there may be nothing left to ask
    rcases d.onward_cases (q.serve ops request).1 rest with hon | hon <;> rw [hon]
    · obtain ⟨hans', hpool⟩ := ih hrest
      exact ⟨by rw [hans'], hpool⟩
    · exact ⟨rfl, hrest⟩

omit [Scalar α] in
theorem statusOf_fence_crashed {pool : Pool σ α} {s : StreamIndex} (h : pool.statusOf s = .crashed)
    (stage : Stage α) : (pool.fence stage).2.statusOf s = .crashed := by
  rw [statusOf] at h
  rw [statusOf, stream?_fence]
  cases hst : pool.stream? s with
  | none => rw [hst] at h; cases h
  | some st =>
    rw [hst, Option.map_some, Option.getD_some] at h
    have hl : st.worker.lost = true := Worker.status_eq_crashed.mp h
    exact Worker.status_eq_crashed.mpr (show st.cleared.worker.lost = true from hl)

theorem statusOf_serve_crashed {pool : Pool σ α} {s : StreamIndex} (h : pool.statusOf s = .crashed)
    (request : Request α) : (pool.serve ops request).2.statusOf s = .crashed := by
  cases request with
  | fence stage => exact statusOf_fence_crashed h stage
  | submit b call op =>
    rw [serve_submit]
    exact statusOf_absorb_crashed ops h b op

/-- **A stream that was lost on the way is lost in the end.** -/
theorem statusOf_serveAll_crashed (requests : List (Request α)) :
    ∀ {pool : Pool σ α} {s : StreamIndex}, pool.statusOf s = .crashed →
      (serveAll ops d requests pool).2.statusOf s = .crashed := by
  induction requests with
  | nil => exact fun h => h
  | cons request rest ih =>
    intro pool s h
    have hserve := statusOf_serve_crashed ops h request
    rw [serveAll]
    match hs : pool.serve ops request with
    | (.ok (), pool') => rw [hs] at hserve; cases d <;> exact ih hserve
    | (.error e, pool') =>
      rw [hs] at hserve
      cases d with
      | goOn => exact ih hserve
      | stop => exact hserve

end Serving

end Pool

end MethodOfLines
