import MethodOfLines.Proofs.Stops
import MethodOfLines.Proofs.Upcoming

/-!
# Proofs/Routed — every operation reaches the stream of its grid

Requests are for the grids of a list if every operation is issued for the place of one of them
(`Request.Bound`).  Then, under every schedule and whatever fails on the way, what stands in a queue
was requested for the stream of that queue, and a worker holds the grids bound to it, with other
values in their buffers at most (`Machine.Routed`).  In particular an operation that is about to be
carried out finds its grid (`Machine.Routed.exists_grid?`).
-/

namespace MethodOfLines

variable {σ α : Type} [Scalar α]

omit [Scalar α] in
/-- **Requests for the grids of a list**: every operation is issued for the place of one of them. -/
def Request.Bound (size : Nat) (grids : List (Grid α)) (requests : List (Request α)) : Prop :=
  ∀ b call op, .submit b call op ∈ requests → ∃ e ∈ Pool.slots grids, b = Pool.bind size e

omit [Scalar α] in
/-- The stream of a slot. -/
def Pool.home (size : Nat) (grids : List (Grid α)) (slot : Nat) : StreamIndex :=
  ((grids[slot]?).map fun g => streamFor g.id size).getD 0

omit [Scalar α] in
theorem Pool.home_of_mem {size : Nat} {grids : List (Grid α)} {e : Nat × Grid α}
    (he : e ∈ Pool.slots grids) : home size grids e.1 = (Pool.bind size e).stream := by
  rw [home, Pool.mem_slots.mp he]
  rfl

namespace Machine

omit [Scalar α] in
/-- **A machine whose operations go where they belong.** -/
structure Routed (size : Nat) (grids : List (Grid α)) (requests : List (Request α))
    (m : Machine σ α) : Prop where
  sound : m.Sound
  bindings : m.bindings = (Pool.slots grids).map (Pool.bind size)
  streams : m.lanes.map (·.stream.index) = Stream.indices ((Pool.slots grids).map (Pool.bind size))
  pending : ∀ r ∈ m.pending, r ∈ requests
  queued : ∀ lane ∈ m.lanes, ∀ x ∈ lane.work, x ∈ Request.workFor lane.stream.index requests
  owns : ∀ lane ∈ m.lanes, ∀ e ∈ Pool.slots grids,
    (Pool.bind size e).stream = lane.stream.worker.stream →
      ∃ g, lane.stream.worker.grid? e.1 = some g ∧ e.2.Refills g

variable {ops : Operators σ α} {d : Discipline} {size : Nat} {grids : List (Grid α)}
  {requests : List (Request α)} {m m' : Machine σ α}

/-! ## One move -/

theorem pending_subset_of_move? {actor : Actor} (h : m.move? ops d actor = some m') :
    ∀ r ∈ m'.pending, r ∈ m.pending := by
  have honward : ∀ (answer : Except StepError Unit) (rest : List (Request α)),
      ∀ r ∈ d.onward answer rest, r ∈ rest := by
    intro answer rest r hr
    unfold Discipline.onward at hr
    split at hr
    · exact absurd hr List.not_mem_nil
    · exact hr
  cases actor with
  | worker u =>
    obtain ⟨_, _, _, _, -, -, rfl⟩ := worker?_cases h
    exact fun r hr => hr
  | issuer =>
    rcases issuer?_cases h with ⟨b, call, op, rest, -, hp, rfl⟩ | ⟨stage, rest, -, hp, rfl⟩ |
      ⟨stage, s, others, -, -, rfl⟩ | ⟨stage, answer, -, -, -, rfl⟩
    · intro r hr
      rw [posted, pending_answered] at hr
      exact hp ▸ List.mem_cons_of_mem _ (honward _ _ r hr)
    · exact fun r hr => hp ▸ List.mem_cons_of_mem _ hr
    · exact fun r hr => hr
    · intro r hr
      rw [pending_answered] at hr
      exact honward _ _ r hr

omit [Scalar α] in
theorem work_send_subset (lane : Lane α) (message : Message α) :
    ∀ x ∈ (lane.send message).work, x ∈ lane.work ∨ message.work? = some x := by
  intro x hx
  cases hl : lane.stream.worker.lost with
  | true => exact .inl (Lane.send_of_lost hl message ▸ hx)
  | false =>
    rw [Lane.work_send hl, List.mem_append, Option.mem_toList] at hx
    exact hx

/-- A move of a worker puts nothing into a queue. -/
theorem work_subset_of_advance? {lane lane' : Lane α} {memory memory' : σ}
    {performed : Option (Nat × Op α)}
    (h : lane.advance? ops memory = some (lane', memory', performed)) :
    ∀ x ∈ lane'.work, x ∈ lane.work := by
  intro x hx
  rcases Lane.performed_of_advance? h with ⟨rest, hq, -, hq', -⟩ |
    ⟨slot, op, rest, hq, -, -, hq', -⟩
  · rw [Lane.work, hq'] at hx
    rw [Lane.work, hq]
    exact hx
  · rw [Lane.work, hq'] at hx
    rw [Lane.work, hq]
    split at hx
    · exact absurd hx List.not_mem_nil
    · exact List.mem_cons_of_mem _ hx

/-- **What is put into a queue was requested for its stream.** -/
theorem Routed.queued_of_move? (h : m.Routed size grids requests) {actor : Actor}
    (hmove : m.move? ops d actor = some m') :
    ∀ lane ∈ m'.lanes, ∀ x ∈ lane.work, x ∈ Request.workFor lane.stream.index requests := by
  cases actor with
  | worker u =>
    obtain ⟨lane, lane', after, performed, hlane, hadv, rfl⟩ := worker?_cases hmove
    obtain ⟨hmem, rfl⟩ := mem_of_lane? hlane
    refine forall_replace (fun _ _ _ x hx => ?_) fun old hold _ => h.queued old hold
    rw [Lane.index_of_advance? hadv]
    exact h.queued lane hmem x (work_subset_of_advance? hadv x hx)
  | issuer =>
    rcases issuer?_cases hmove with ⟨b, call, op, rest, -, hp, rfl⟩ | ⟨stage, rest, -, -, rfl⟩ |
      ⟨stage, s, others, -, -, rfl⟩ | ⟨stage, answer, -, -, -, rfl⟩
    · refine forall_replace (fun lane hmem hi x hx => ?_) fun lane hmem _ => h.queued lane hmem
      rw [stream_send]
      rcases work_send_subset _ _ x hx with hx | hx
      · exact h.queued lane hmem x hx
      · obtain rfl := Option.some.inj hx
        exact Request.mem_workFor.mpr
          ⟨b, call, h.pending _ (hp ▸ List.mem_cons_self), hi.symm, rfl⟩
    · intro lane hmem
      obtain ⟨old, hold, rfl⟩ := List.mem_map.mp hmem
      exact h.queued old hold
    · refine forall_replace (fun lane hmem _ x hx => ?_) fun lane hmem _ => h.queued lane hmem
      rw [stream_send]
      rcases work_send_subset _ _ x hx with hx | hx
      · exact h.queued lane hmem x hx
      · cases hx
    · exact h.queued

/-- **A worker keeps the grids it owns.** -/
theorem Routed.owns_of_move? (h : m.Routed size grids requests) {actor : Actor}
    (hmove : m.move? ops d actor = some m') :
    ∀ lane ∈ m'.lanes, ∀ e ∈ Pool.slots grids,
      (Pool.bind size e).stream = lane.stream.worker.stream →
        ∃ g, lane.stream.worker.grid? e.1 = some g ∧ e.2.Refills g := by
  cases actor with
  | issuer =>
    exact forall_worker_of_issuer? hmove (P := fun w => ∀ e ∈ Pool.slots grids,
      (Pool.bind size e).stream = w.stream → ∃ g, w.grid? e.1 = some g ∧ e.2.Refills g) h.owns
  | worker u =>
    refine forall_worker_of_worker? hmove (P := fun w => ∀ e ∈ Pool.slots grids,
      (Pool.bind size e).stream = w.stream → ∃ g, w.grid? e.1 = some g ∧ e.2.Refills g)
      (fun _ hw => hw) (fun lane _ x _ _ hw e he ht => ?_) h.owns
    rw [Worker.turn, Worker.stream_perform] at ht
    obtain ⟨g, hg, hrefills⟩ := hw e he ht
    rcases Worker.grid?_turn ops hg ⟨x, m.memory⟩ with hg' | hg'
    · exact ⟨g, hg', hrefills⟩
    · exact ⟨_, hg', hrefills.trans (Op.refills_execute ..)⟩

/-! ## Along a schedule -/

theorem Routed.of_move? (h : m.Routed size grids requests) {actor : Actor}
    (hmove : m.move? ops d actor = some m') : m'.Routed size grids requests where
  sound := sound_of_move? h.sound hmove
  bindings := (kept_of_move? hmove).1.trans h.bindings
  streams := (kept_of_move? hmove).2.trans h.streams
  pending r hr := h.pending r (pending_subset_of_move? hmove r hr)
  queued := h.queued_of_move? hmove
  owns := h.owns_of_move? hmove

omit [Scalar α] in
theorem routed_start (size : Nat) (grids : List (Grid α)) (memory : σ)
    (requests : List (Request α)) :
    (start size grids memory requests).Routed size grids requests where
  sound := sound_start size grids memory requests
  bindings := rfl
  streams := by
    rw [start, List.map_map]
    exact Pool.indices_spawn size grids memory
  pending r hr := hr
  queued lane hmem x hx := by
    rw [Lane.work, (lane_of_mem_start hmem).2.1] at hx
    exact absurd hx List.not_mem_nil
  owns lane hmem e he ht := by
    rw [(lane_of_mem_start hmem).1] at ht ⊢
    exact ⟨e.2, Worker.grid?_fresh he ht, .refl e.2⟩

/-- **Under every schedule operations go where they belong.** -/
theorem routed_run (ops : Operators σ α) (d : Discipline) (size : Nat) (grids : List (Grid α))
    (memory : σ) (requests : List (Request α)) (schedule : Schedule) :
    ((start size grids memory requests).run ops d schedule).Routed size grids requests :=
  run_invariant (fun h hmove => h.of_move? hmove) (routed_start size grids memory requests) schedule

/-! ## Operations about to be carried out -/

omit [Scalar α] in
/-- **An operation that is about to be carried out finds its grid.** -/
theorem Routed.exists_grid? (h : m.Routed size grids requests)
    (hb : Request.Bound size grids requests) {lane : Lane α} {slot : Nat} {op : Op α}
    (hup : m.Upcoming lane slot op) :
    ∃ e ∈ Pool.slots grids, e.1 = slot ∧ (Pool.bind size e).stream = lane.stream.index
      ∧ ∃ g, lane.stream.worker.grid? slot = some g ∧ e.2.Refills g := by
  obtain ⟨b, call, hmem, ht, rfl⟩ :=
    Request.mem_workFor.mp (h.queued lane hup.mem _ hup.mem_work)
  obtain ⟨e, he, rfl⟩ := hb b call op hmem
  exact ⟨e, he, rfl, ht, h.owns lane hup.mem e he ht⟩

end Machine

/-! ## The grids of the pool -/

namespace Pool

omit [Scalar α] in
theorem getElem?_slots (grids : List (Grid α)) (i : Nat) :
    (slots grids)[i]? = grids[i]?.map (i, ·) := by
  rw [slots, List.getElem?_map, List.getElem?_zipIdx]
  cases grids[i]? <;> simp

omit [Scalar α] in
/-- What is done to one slot is done to one grid. -/
theorem map_slots_set {β : Type} (grids : List (Grid α)) (F : Nat × Grid α → β) (slot : Nat)
    (b : β) : ((slots grids).map fun x => if x.1 = slot then b else F x)
      = ((slots grids).map F).set slot b := by
  refine List.ext_getElem? fun i => ?_
  rw [List.getElem?_set', List.getElem?_map, List.getElem?_map, getElem?_slots]
  cases grids[i]? with
  | none => simp
  | some g => by_cases hi : slot = i <;> simp [hi, Ne.symm]

omit [Scalar α] in
/-- A stream replaced is seen in the grids it owns alone. -/
theorem grid?_setStream {pool : Pool σ α} {st st' : Stream α}
    (hst : pool.stream? st.index = some st) (hi : st'.index = st.index) (b : Binding α) :
    (pool.setStream st').grid? b
      = if b.stream = st.index then st'.worker.grid? b.slot else pool.grid? b := by
  have hfind : (pool.setStream st').stream? b.stream = _ :=
    find?_map_replace pool.streams st' b.stream
  rw [grid?, hfind, hi]
  split
  · next ht =>
    rw [← stream?, ht, hst]
    rfl
  · rfl

end Pool

namespace Machine

omit [Scalar α] in
theorem pool_setLane (m : Machine σ α) (lane : Lane α) :
    (m.setLane lane).pool = m.pool.setStream lane.stream := by
  simp only [pool, setLane, Pool.setStream, List.map_map, Pool.mk.injEq, true_and, and_true]
  exact List.map_congr_left fun old _ => apply_ite Lane.stream ..

omit [Scalar α] in
theorem stream?_of_mem_lanes {m : Machine σ α} (hm : m.Sound) {lane : Lane α}
    (hmem : lane ∈ m.lanes) : m.pool.stream? lane.stream.index = some lane.stream := by
  rw [stream?_pool, lane?_of_mem hm hmem]
  rfl

omit [Scalar α] in
theorem statusOf_of_mem_lanes {m : Machine σ α} (hm : m.Sound) {lane : Lane α}
    (hmem : lane ∈ m.lanes) : m.pool.statusOf lane.stream.index = lane.stream.worker.status := by
  rw [Pool.statusOf, stream?_of_mem_lanes hm hmem]
  rfl

variable {size : Nat} {grids : List (Grid α)} {requests : List (Request α)} {m : Machine σ α}

omit [Scalar α] in
theorem Routed.exists_lane (h : m.Routed size grids requests) {e : Nat × Grid α}
    (he : e ∈ Pool.slots grids) :
    ∃ lane ∈ m.lanes, lane.stream.index = (Pool.bind size e).stream := by
  have hmem : (Pool.bind size e).stream ∈ m.lanes.map (·.stream.index) := by
    rw [h.streams]
    exact Stream.mem_indices.mpr ⟨_, List.mem_map_of_mem he, rfl⟩
  exact List.mem_map.mp hmem

omit [Scalar α] in
/-- **A grid of the pool is where its slot says.** -/
theorem Routed.grid?_pool (h : m.Routed size grids requests) {lane : Lane α}
    (hmem : lane ∈ m.lanes) {e : Nat × Grid α}
    (ht : (Pool.bind size e).stream = lane.stream.index) :
    m.pool.grid? (Pool.bind size e) = lane.stream.worker.grid? e.1 := by
  rw [Pool.grid?, ht, stream?_of_mem_lanes h.sound hmem]
  rfl

omit [Scalar α] in
theorem Routed.exists_pool_grid? (h : m.Routed size grids requests) {e : Nat × Grid α}
    (he : e ∈ Pool.slots grids) : ∃ g, m.pool.grid? (Pool.bind size e) = some g := by
  obtain ⟨lane, hmem, hi⟩ := h.exists_lane he
  obtain ⟨g, hg, -⟩ := h.owns lane hmem e he hi.symm
  exact ⟨g, (h.grid?_pool hmem hi.symm).trans hg⟩

omit [Scalar α] in
theorem Routed.grids_eq (h : m.Routed size grids requests) :
    m.pool.grids
      = (Pool.slots grids).map fun e => (m.pool.grid? (Pool.bind size e)).getD e.2 := by
  refine Pool.grids_eq_map_slots h.bindings fun e he => ?_
  obtain ⟨g, hg⟩ := h.exists_pool_grid? he
  rw [hg]
  rfl

omit [Scalar α] in
theorem Routed.getElem?_grids (h : m.Routed size grids requests) {e : Nat × Grid α}
    (he : e ∈ Pool.slots grids) : m.pool.grids[e.1]? = m.pool.grid? (Pool.bind size e) := by
  obtain ⟨g, hg⟩ := h.exists_pool_grid? he
  rw [h.grids_eq, List.getElem?_map, Pool.getElem?_slots, Pool.mem_slots.mp he]
  change some ((m.pool.grid? (Pool.bind size e)).getD e.2) = _
  rw [hg]
  rfl

omit [Scalar α] in
/-- **An operation on a grid of the pool replaces that grid.** -/
theorem Routed.grids_setLane (h : m.Routed size grids requests) {lane lane' : Lane α}
    (hmem : lane ∈ m.lanes) {e : Nat × Grid α} (he : e ∈ Pool.slots grids)
    (ht : (Pool.bind size e).stream = lane.stream.index)
    {v : Verdict} {g g' : Grid α} (hg : lane.stream.worker.grid? e.1 = some g)
    (hlane : lane'.stream.worker = lane.stream.worker.settle e.1 v g') :
    (m.setLane lane').pool.grids = m.pool.grids.set e.1 g' := by
  have hindex : lane'.stream.index = lane.stream.index := by
    rw [Stream.index, hlane, Worker.stream_settle]
    rfl
  have hnew : ∀ x ∈ Pool.slots grids, (m.setLane lane').pool.grid? (Pool.bind size x)
      = if x.1 = e.1 then some g' else m.pool.grid? (Pool.bind size x) := by
    intro x hx
    rw [pool_setLane, Pool.grid?_setStream (stream?_of_mem_lanes h.sound hmem) hindex]
    split
    · next hx' =>
      rw [hlane, h.grid?_pool hmem hx']
      exact Worker.grid?_settle hg v g' x.1
    · next hx' => exact (if_neg fun heq => hx' (Pool.eq_of_mem_slots he hx heq ▸ ht)).symm
  rw [h.grids_eq, ← Pool.map_slots_set]
  refine Pool.grids_eq_map_slots h.bindings fun x hx => ?_
  obtain ⟨f, hf⟩ := h.exists_pool_grid? hx
  rw [hnew x hx, hf]
  split <;> rfl

end Machine

end MethodOfLines
