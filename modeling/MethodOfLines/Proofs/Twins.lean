import Mathlib.Data.List.Forall2
import MethodOfLines.Proofs.Calls
import MethodOfLines.Proofs.Scratch

/-!
# Proofs/Twins — two pools over grids with the same states

Two workers are **twins** for the work that is still to come if they stand alike, their grids have
the same states, and the work of each slot ends alike on both its grids (`Worker.Twin`).  Carrying
out the next operation on both keeps them so, whatever each remembers (`Worker.Twin.perform`).
Pools of twin streams therefore give the same answers to all requests (`Pool.Twin.serveAll`).
-/

namespace MethodOfLines

variable {σ α : Type} [Scalar α]

/-! ## Workers -/

/-- **Workers that the work to come cannot tell apart**, and that leave the same states. -/
structure Worker.Twin (ops : Operators σ α) (work : List (Nat × Op α)) (w w' : Worker α) :
    Prop where
  stream : w'.stream = w.stream
  params : w'.params = w.params
  failed : w'.failed = w.failed
  lost : w'.lost = w.lost
  grids : ∀ k, Option.Rel Grid.Retains (w.grid? k) (w'.grid? k)
  tracks : w.status = .done → ∀ {k g g'}, w.grid? k = some g → w'.grid? k = some g' →
    Op.Tracks ops ((work.filter (·.1 = k)).map Prod.snd) g g'

/-- Work on a slot that a worker does not own. -/
theorem Worker.perform_of_absent (ops : Operators σ α) {w : Worker α} (h : w.status = .done)
    {k : Nat} (hg : w.grid? k = none) {op : Op α} (hop : op.IsWork) (memory : σ) :
    w.perform ops k op memory = ({ w with lost := true }, memory) := by
  rw [perform_of_status ops h]
  cases op with
  | syncParams params => exact absurd rfl (hop params)
  | _ => simp only [execute, hg]

namespace Worker.Twin

variable {ops : Operators σ α} {work : List (Nat × Op α)} {w w' : Worker α} {k : Nat} {op : Op α}

theorem status (h : Twin ops work w w') : w'.status = w.status := by
  rw [Worker.status, h.lost, h.failed, Worker.status]

theorem retains (h : Twin ops work w w') {g g' : Grid α} (hg : w.grid? k = some g)
    (hg' : w'.grid? k = some g') : g.Retains g' := by
  have hrel := h.grids k
  rw [hg, hg'] at hrel
  cases hrel with
  | some hgg => exact hgg

/-- Twins to which no more work comes. -/
theorem stop (h : Twin ops work w w') : Twin ops [] w w' :=
  { h with tracks := fun _ _ _ _ => h.retains }

theorem cleared (h : Twin ops work w w') : Twin ops [] w.cleared w'.cleared :=
  { h with failed := rfl, tracks := fun _ _ _ _ => h.retains }

/-- Work on a slot is not work on another. -/
theorem tracks_of_ne (h : Twin ops ((k, op) :: work) w w') (hd : w.status = .done) {j : Nat}
    (hj : j ≠ k) {g g' : Grid α} (hg : w.grid? j = some g) (hg' : w'.grid? j = some g') :
    Op.Tracks ops ((work.filter (·.1 = j)).map Prod.snd) g g' := by
  have htracks := h.tracks hd hg hg'
  rwa [List.filter_cons_of_neg (by simpa using hj.symm)] at htracks

theorem tracks_self (h : Twin ops ((k, op) :: work) w w') (hd : w.status = .done) {g g' : Grid α}
    (hg : w.grid? k = some g) (hg' : w'.grid? k = some g') :
    Op.Tracks ops (op :: (work.filter (·.1 = k)).map Prod.snd) g g' := by
  have htracks := h.tracks hd hg hg'
  rwa [List.filter_cons_of_pos (by simp)] at htracks

/-- **Twins whose next operation ends alike** stay twins. -/
theorem settle (h : Twin ops ((k, op) :: work) w w') (hd : w.status = .done) {g g' : Grid α}
    (hg : w.grid? k = some g) (hg' : w'.grid? k = some g') (v : Verdict) {x x' : Grid α}
    (hx : x.Retains x')
    (ht : v = .done → Op.Tracks ops ((work.filter (·.1 = k)).map Prod.snd) x x') :
    Twin ops work (w.settle k v x) (w'.settle k v x') where
  stream := by rw [stream_settle, stream_settle, h.stream]
  params := by rw [params_settle, params_settle, h.params]
  failed := by cases v <;> simp [Worker.settle, setGrid, h.failed]
  lost := by cases v <;> simp [Worker.settle, setGrid, h.lost]
  grids j := by
    rw [grid?_settle hg, grid?_settle hg']
    split
    · exact .some hx
    · exact h.grids j
  tracks := by
    intro hv j y y' hy hy'
    rw [status_settle hd] at hv
    rw [grid?_settle hg] at hy
    rw [grid?_settle hg'] at hy'
    by_cases hj : j = k
    · rw [if_pos hj] at hy hy'
      obtain rfl := Option.some.inj hy
      obtain rfl := Option.some.inj hy'
      exact hj ▸ ht hv
    · rw [if_neg hj] at hy hy'
      exact h.tracks_of_ne hd hj hy hy'

/-- Twins that crash together. -/
theorem crash (h : Twin ops work w w') {work' : List (Nat × Op α)} :
    Twin ops work' { w with lost := true } { w' with lost := true } :=
  { h with lost := rfl, tracks := fun hd => nomatch (status_eq_done.mp hd).1 }

/-- **An operation carried out by twins leaves twins**, whatever each remembers. -/
theorem perform (h : Twin ops ((k, op) :: work) w w') (memory memory' : σ) :
    Twin ops work (w.perform ops k op memory).1 (w'.perform ops k op memory').1 := by
  by_cases hd : w.status = .done
  · have hd' : w'.status = .done := h.status.trans hd
    by_cases hop : op.IsWork
    · match hg : w.grid? k, hg' : w'.grid? k, h.grids k with
      | some g, some g', .some hgg =>
        obtain ⟨hverdict, hretains, hrest⟩ :=
          (h.tracks_self hd hg hg').2 w.stream w.params memory memory'
        rw [perform_work ops hd hg hop, perform_work ops hd' hg' hop, h.stream, h.params,
          ← hverdict]
        exact h.settle hd hg hg' _ hretains hrest
      | none, none, .none =>
        rw [perform_of_absent ops hd hg hop, perform_of_absent ops hd' hg' hop]
        exact h.crash
    · obtain ⟨params, rfl⟩ : ∃ params, op = .syncParams params := by simpa [Op.IsWork] using hop
      rw [perform_sync ops hd, perform_sync ops hd']
      refine { h with params := rfl, tracks := fun _ {j g g'} hg hg' => ?_ }
      by_cases hj : j = k
      · subst hj
        exact ((h.tracks_self hd hg hg').2 w.stream w.params memory memory').2.2 rfl
      · exact h.tracks_of_ne hd hj hg hg'
  · rw [perform_of_status_ne ops hd, perform_of_status_ne ops (h.status ▸ hd)]
    exact { h with tracks := fun hd' => absurd hd' hd }

end Worker.Twin

/-! ## Pools -/

/-- Streams that the work to come cannot tell apart. -/
structure Stream.Twin (ops : Operators σ α) (work : List (Nat × Op α)) (st st' : Stream α) :
    Prop where
  lastGrid : st'.lastGrid = st.lastGrid
  worker : st.worker.Twin ops work st'.worker

namespace Stream.Twin

variable {ops : Operators σ α} {work : List (Nat × Op α)} {st st' : Stream α}

theorem index (h : Twin ops work st st') : st'.index = st.index := h.worker.stream

theorem answer (h : Twin ops work st st') (stage : Stage α) :
    st'.answer stage = st.answer stage := by
  rw [Stream.answer, h.worker.lost, h.lastGrid, h.index, h.worker.failed, Stream.answer]

/-- **An operation taken by twin streams.** -/
theorem accept {b : Binding α} {op : Op α} (h : Twin ops ((b.slot, op) :: work) st st')
    (memory memory' : σ) :
    Twin ops work (st.accept ops b op memory).1 (st'.accept ops b op memory').1 :=
  ⟨rfl, h.worker.perform memory memory'⟩

end Stream.Twin

/-- **Pools that the requests to come cannot tell apart**, and whose grids have the same states. -/
structure Pool.Twin (ops : Operators σ α) (requests : List (Request α)) (p p' : Pool σ α) :
    Prop where
  bindings : p'.bindings = p.bindings
  nodup : p.indices.Nodup
  streams : List.Forall₂
    (fun st st' => st.Twin ops (Request.workFor st.index requests) st') p.streams p'.streams

omit [Scalar α] in
/-- A fence that passes changes nothing. -/
theorem Pool.fence_of_passed {p : Pool σ α} {stage : Stage α}
    (h : p.streams.findSome? (·.answer stage) = none) : p.fence stage = (.ok (), p) := by
  have hcleared : p.streams.map Stream.cleared = p.streams := by
    refine (List.map_congr_left fun st hst => ?_).trans (List.map_id _)
    have hdone := Stream.answer_eq_none.mp (List.findSome?_eq_none_iff.mp h st hst)
    exact Stream.cleared_of_failed (Worker.status_eq_done.mp hdone).2
  refine Prod.ext ?_ ?_
  · rw [fence_fst, h]
    rfl
  · rw [fence_snd, hcleared]

namespace Pool.Twin

variable {ops : Operators σ α} {requests rest : List (Request α)} {p p' : Pool σ α}

theorem indices (h : Twin ops requests p p') : p'.indices = p.indices :=
  List.map_eq_of_forall₂ h.streams fun hst => hst.index

theorem stream? (h : Twin ops requests p p') (t : StreamIndex) :
    Option.Rel (fun st st' => st.Twin ops (Request.workFor st.index requests) st')
      (p.stream? t) (p'.stream? t) :=
  List.rel_find? h.streams fun hst => by rw [hst.index]

/-- **Twin pools hold the same states.** -/
theorem grids (h : Twin ops requests p p') : List.Forall₂ Grid.Retains p.grids p'.grids := by
  rw [Pool.grids, Pool.grids, h.bindings]
  refine List.rel_filterMap (R := Eq) (fun b b' hb => ?_) (List.forall₂_refl _)
  subst hb
  exact Option.rel_bind (h.stream? b.stream) fun hst => hst.worker.grids b.slot

/-- Twins of which nothing more is asked. -/
theorem stop (h : Twin ops requests p p') : Twin ops [] p p' :=
  { h with streams := h.streams.imp fun _ _ hst => ⟨hst.lastGrid, hst.worker.stop⟩ }

theorem findSome?_answer (h : Twin ops requests p p') (stage : Stage α) :
    p'.streams.findSome? (·.answer stage) = p.streams.findSome? (·.answer stage) := by
  have hmap : p'.streams.map (·.answer stage) = p.streams.map (·.answer stage) :=
    List.map_eq_of_forall₂ h.streams fun hst => hst.answer stage
  simpa only [List.findSome?_map, Function.id_comp] using congrArg (List.findSome? id) hmap

/-- **A fence on twin pools.**  If it passes it changes nothing; otherwise nothing more is asked. -/
theorem fence {stage : Stage α} (h : Twin ops (.fence stage :: rest) p p') :
    (p'.fence stage).1 = (p.fence stage).1
      ∧ Twin ops (Discipline.stop.onward (p.fence stage).1 rest) (p.fence stage).2
        (p'.fence stage).2 := by
  have hanswer := h.findSome?_answer stage
  cases hfirst : p.streams.findSome? (·.answer stage) with
  | none =>
    rw [fence_of_passed hfirst, fence_of_passed (hanswer.trans hfirst)]
    exact ⟨rfl, h.bindings, h.nodup, h.streams⟩
  | some e =>
    rw [fence_fst, fence_fst, hanswer, hfirst]
    refine ⟨rfl, ?_, ?_, ?_⟩
    · rw [bindings_fence, bindings_fence, h.bindings]
    · rw [indices_fence]
      exact h.nodup
    · rw [fence_snd, fence_snd]
      refine List.forall₂_map_left_iff.mpr (List.forall₂_map_right_iff.mpr ?_)
      exact h.streams.imp fun _ _ hst => ⟨hst.lastGrid, hst.worker.cleared⟩

/-- **An operation issued to twin pools.** -/
theorem absorb {b : Binding α} {call : StageCall α} {op : Op α}
    (h : Twin ops (.submit b call op :: rest) p p') :
    Twin ops rest (p.absorb ops b op) (p'.absorb ops b op) := by
  refine ⟨?_, ?_, ?_⟩
  · simp only [Pool.absorb, bindings_onStream, h.bindings]
  · rw [Pool.absorb, indices_onStream]
    exact h.nodup
  · rw [streams_absorb ops h.nodup, streams_absorb ops (h.indices ▸ h.nodup)]
    refine List.forall₂_map_left_iff.mpr (List.forall₂_map_right_iff.mpr ?_)
    refine h.streams.imp fun st st' hst => ?_
    rw [← List.singleton_append, Request.workFor_append, Request.workFor_submit] at hst
    rw [hst.index]
    by_cases hi : st.index = b.stream
    · rw [if_pos hi.symm] at hst
      rw [if_pos hi, if_pos hi, Stream.index_accept]
      exact hst.accept _ _
    · rw [if_neg (Ne.symm hi)] at hst
      rw [if_neg hi, if_neg hi]
      exact hst

theorem submit_fst {b : Binding α} {call : StageCall α} {op : Op α}
    (h : Twin ops requests p p') :
    (p'.submit ops b call op).1 = (p.submit ops b call op).1 := by
  match hst : p.stream? b.stream, hst' : p'.stream? b.stream, h.stream? b.stream with
  | some st, some st', .some htwin =>
    rw [Pool.submit_fst ops p b call op hst, Pool.submit_fst ops p' b call op hst',
      htwin.worker.lost]
  | none, none, .none => simp only [submit, hst, hst']

/-- **Twin pools answer a request alike**, and stay twins for what is asked then. -/
theorem serve {request : Request α} (h : Twin ops (request :: rest) p p') :
    (p'.serve ops request).1 = (p.serve ops request).1
      ∧ Twin ops (Discipline.stop.onward (p.serve ops request).1 rest) (p.serve ops request).2
        (p'.serve ops request).2 := by
  cases request with
  | fence stage => exact h.fence
  | submit b call op =>
    rw [serve_submit, serve_submit, h.submit_fst]
    refine ⟨rfl, ?_⟩
    rcases Discipline.stop.onward_cases ((p.submit ops b call op).1.mapError .dispatch) rest with
      hon | hon <;> rw [hon]
    · exact h.absorb
    · exact h.absorb.stop

/-- **Twin pools give the same answers to all requests.** -/
theorem serveAll (requests : List (Request α)) :
    ∀ {p p' : Pool σ α}, Twin ops requests p p' →
      (Pool.serveAll ops .stop requests p').1 = (Pool.serveAll ops .stop requests p).1
        ∧ Twin ops [] (Pool.serveAll ops .stop requests p).2
          (Pool.serveAll ops .stop requests p').2 := by
  induction requests with
  | nil => exact fun h => ⟨rfl, h⟩
  | cons request rest ih =>
    intro p p' h
    obtain ⟨hanswer, hrest⟩ := h.serve
    rw [serveAll_cons, serveAll_cons, hanswer]
    rcases Discipline.stop.onward_cases (p.serve ops request).1 rest with hon | hon <;>
      rw [hon] at hrest ⊢
    · obtain ⟨hanswers, hpool⟩ := ih hrest
      exact ⟨by rw [hanswers], hpool⟩
    · exact ⟨rfl, hrest⟩

end Pool.Twin

/-! ## New pools -/

section Spawn

omit [Scalar α]

/-- Entries of one slot whose grids have the same state. -/
def Pool.SameState (e e' : Nat × Grid α) : Prop := e'.1 = e.1 ∧ e.2.Retains e'.2

variable {grids grids' : List (Grid α)}

theorem Pool.forall₂_slots {R : Grid α → Grid α → Prop} (h : List.Forall₂ R grids grids') :
    List.Forall₂ (fun e e' : Nat × Grid α => e'.1 = e.1 ∧ R e.2 e'.2) (slots grids)
      (slots grids') := by
  have hfrom : ∀ n, List.Forall₂ (fun x x' : Grid α × Nat => x'.2 = x.2 ∧ R x.1 x'.1)
      (grids.zipIdx n) (grids'.zipIdx n) := by
    induction h with
    | nil => exact fun _ => .nil
    | cons hg _ ih => exact fun n => .cons ⟨rfl, hg⟩ (ih (n + 1))
  exact List.forall₂_map_left_iff.mpr (List.forall₂_map_right_iff.mpr (hfrom 0))

theorem Pool.sameState_slots (h : List.Forall₂ Grid.Retains grids grids') :
    List.Forall₂ Pool.SameState (Pool.slots grids) (Pool.slots grids') :=
  forall₂_slots h

theorem Grid.map_id_of_refills (h : List.Forall₂ Grid.Refills grids grids') :
    grids'.map Grid.id = grids.map Grid.id :=
  List.map_eq_of_forall₂ h fun hr => by
    obtain ⟨_, rfl⟩ := hr
    rfl

/-- Grids of the same shape have the same place. -/
theorem Pool.bind_eq_of_refills {e e' : Nat × Grid α} (hslot : e'.1 = e.1) (hg : e.2.Refills e'.2)
    (size : Nat) : bind size e' = bind size e := by
  obtain ⟨b, hg⟩ := hg
  rw [bind, hslot, hg]
  rfl

theorem Pool.SameState.bind_eq {e e' : Nat × Grid α} (h : SameState e e') (size : Nat) :
    bind size e' = bind size e :=
  bind_eq_of_refills h.1 h.2.refills size

theorem Pool.map_bind_slots_of_refills (h : List.Forall₂ Grid.Refills grids grids') (size : Nat) :
    (slots grids').map (bind size) = (slots grids).map (bind size) :=
  List.map_eq_of_forall₂ (forall₂_slots h) fun he => bind_eq_of_refills he.1 he.2 size

theorem Pool.map_bind_slots (h : List.Forall₂ Grid.Retains grids grids') (size : Nat) :
    (slots grids').map (bind size) = (slots grids).map (bind size) :=
  map_bind_slots_of_refills (h.imp fun _ _ => Grid.Retains.refills) size

/-- What a stream is started with. -/
theorem Pool.sameState_filter (h : List.Forall₂ Grid.Retains grids grids') (size : Nat)
    (t : StreamIndex) :
    List.Forall₂ SameState ((slots grids).filter fun e => streamFor e.2.id size = t)
      ((slots grids').filter fun e => streamFor e.2.id size = t) := by
  refine List.rel_filter (fun e e' he => ?_) (sameState_slots h)
  have hstream : streamFor e'.2.id size = streamFor e.2.id size :=
    congrArg Binding.stream (he.bind_eq size)
  simp only [hstream]

theorem Pool.rel_lookup {l l' : List (Nat × Grid α)} (h : List.Forall₂ SameState l l') (k : Nat) :
    Option.Rel Grid.Retains (l.lookup k) (l'.lookup k) := by
  induction h with
  | nil => exact .none
  | @cons e e' _ _ he _ ih =>
    obtain ⟨j, g⟩ := e
    obtain ⟨j', g'⟩ := e'
    obtain ⟨rfl, hg⟩ := he
    rw [List.lookup_cons, List.lookup_cons]
    cases k == j' with
    | true => exact .some hg
    | false => exact ih

end Spawn

/-- **New workers over grids with the same states** are twins for work that ends alike on each. -/
theorem Worker.twin_fresh {ops : Operators σ α} {size : Nat} {grids grids' : List (Grid α)}
    (hg : List.Forall₂ Grid.Retains grids grids') {t : StreamIndex} {work : List (Nat × Op α)}
    (hw : ∀ e ∈ Pool.slots grids, (Pool.bind size e).stream = t → ∀ g', e.2.Retains g' →
      Op.Tracks ops ((work.filter (·.1 = e.1)).map Prod.snd) e.2 g') :
    Twin ops work (Worker.fresh size grids t) (Worker.fresh size grids' t) where
  stream := rfl
  params := rfl
  failed := rfl
  lost := rfl
  grids k := Pool.rel_lookup (Pool.sameState_filter hg size t) k
  tracks := by
    intro _ k g g' hk hk'
    have hrel : Option.Rel Grid.Retains ((fresh size grids t).grid? k)
        ((fresh size grids' t).grid? k) :=
      Pool.rel_lookup (Pool.sameState_filter hg size t) k
    rw [hk, hk'] at hrel
    cases hrel with
    | some hgg =>
      obtain ⟨l, l', hsplit, -⟩ := List.lookup_eq_some_iff.mp hk
      have hmem : (k, g) ∈ (fresh size grids t).grids := by
        rw [hsplit]
        exact List.mem_append_right _ List.mem_cons_self
      obtain ⟨he, ht⟩ := List.mem_filter.mp hmem
      exact hw (k, g) he (of_decide_eq_true ht) g' hgg

/-- **New pools over grids with the same states** are twins for requests whose work ends alike on
each. -/
theorem Pool.twin_spawn {ops : Operators σ α} {size : Nat} {grids grids' : List (Grid α)}
    (hg : List.Forall₂ Grid.Retains grids grids') (memory memory' : σ)
    {requests : List (Request α)}
    (hw : ∀ e ∈ slots grids, ∀ g', e.2.Retains g' → Op.Tracks ops
      (((Request.workFor (bind size e).stream requests).filter (·.1 = e.1)).map Prod.snd) e.2 g') :
    Twin ops requests (spawn size grids memory) (spawn size grids' memory') where
  bindings := map_bind_slots hg size
  nodup := nodup_of_sorted (indices_spawn_sorted size grids memory)
  streams := by
    have hindices : Stream.indices ((slots grids').map (bind size))
        = Stream.indices ((slots grids).map (bind size)) := by rw [map_bind_slots hg]
    change List.Forall₂ _ ((Stream.indices ((slots grids).map (bind size))).map _)
      ((Stream.indices ((slots grids').map (bind size))).map _)
    rw [hindices]
    refine List.forall₂_map_left_iff.mpr (List.forall₂_map_right_iff.mpr ?_)
    refine List.forall₂_same.mpr fun t _ => ⟨?_, Worker.twin_fresh hg fun e he ht => ?_⟩
    · have hids : ((slots grids').filter fun e => streamFor e.2.id size = t).map (·.2.id)
          = ((slots grids).filter fun e => streamFor e.2.id size = t).map (·.2.id) :=
        List.map_eq_of_forall₂ (sameState_filter hg size t) fun he =>
          congrArg (·.descriptor.id) (he.bind_eq size)
      simp only [Stream.start, ← List.head?_map, hids]
    · exact ht ▸ hw e he

end MethodOfLines
