import MethodOfLines.Proofs.History

/-!
# Proofs/Upcoming — the next move of a worker

A move of the issuing side leaves the workers as they are (`Machine.workers_of_issuer?`).  A move of
a worker is a turn on what is at the front of its queue, or its answer to a fence
(`Machine.forall_worker_of_worker?`).

An operation at the front of a queue is `Machine.Upcoming` if its worker is neither gone nor has
failed: then the next move of that worker carries it out (`Machine.worker?_of_upcoming`).  If the
worker has failed, its next move drops the operation, and nothing else changes
(`Machine.worker?_of_failed`).  A worker is lost in carrying out an operation
(`Machine.Lost.of_worker?`) and does not come back.
-/

namespace MethodOfLines

variable {σ α : Type} [Scalar α]

namespace Machine

variable {ops : Operators σ α} {d : Discipline} {m m' : Machine σ α} {lane : Lane α} {slot : Nat}
  {op : Op α}

/-! ## What moves do to the workers -/

omit [Scalar α] in
/-- **The issuing side leaves the workers alone.** -/
theorem workers_of_issuer? (h : m.issuer? d = some m') :
    m'.lanes.map (·.stream.worker) = m.lanes.map (·.stream.worker) := by
  rcases issuer?_cases h with ⟨b, call, op, rest, -, -, rfl⟩ | ⟨stage, rest, -, -, rfl⟩ |
    ⟨stage, s, others, -, -, rfl⟩ | ⟨stage, answer, -, -, -, rfl⟩
  · exact map_replace fun lane _ _ => by rw [stream_send]
  · rw [halted, List.map_map]
    rfl
  · exact map_replace fun lane _ _ => by rw [stream_send]
  · rfl

omit [Scalar α] in
theorem forall_worker_of_issuer? (h : m.issuer? d = some m') {P : Worker α → Prop}
    (hall : ∀ lane ∈ m.lanes, P lane.stream.worker) : ∀ lane ∈ m'.lanes, P lane.stream.worker := by
  rw [← List.forall_mem_map (f := fun lane : Lane α => lane.stream.worker)] at hall ⊢
  rwa [workers_of_issuer? h]

/-- **What turns and answers keep of a worker, moves of workers keep of all.** -/
theorem forall_worker_of_worker? {u : StreamIndex} (h : m.worker? ops u = some m')
    {P : Worker α → Prop} (hclear : ∀ w, P w → P w.cleared)
    (hturn : ∀ lane ∈ m.lanes, ∀ x rest, lane.queue = .work x.1 x.2 :: rest →
      P lane.stream.worker → P (lane.stream.worker.turn ops ⟨x, m.memory⟩))
    (hall : ∀ lane ∈ m.lanes, P lane.stream.worker) : ∀ lane ∈ m'.lanes, P lane.stream.worker := by
  obtain ⟨lane, lane', after, performed, hlane, hadv, rfl⟩ := worker?_cases h
  obtain ⟨hmem, rfl⟩ := mem_of_lane? hlane
  refine forall_replace (fun _ _ _ => ?_) fun old hold _ => hall old hold
  rcases Lane.performed_of_advance? hadv with ⟨_, -, hst, -⟩ | ⟨slot, op, rest, hq, hst, -⟩
  · rw [hst]
    exact hclear _ (hall lane hmem)
  · rw [hst]
    exact hturn lane hmem (slot, op) rest hq (hall lane hmem)

/-! ## Operations carried out and operations dropped -/

omit [Scalar α] in
/-- **An operation that its worker is about to carry out.** -/
structure Upcoming (m : Machine σ α) (lane : Lane α) (slot : Nat) (op : Op α) : Prop where
  mem : lane ∈ m.lanes
  queue : ∃ rest, lane.queue = .work slot op :: rest
  status : lane.stream.worker.status = .done

omit [Scalar α] in
theorem Upcoming.mem_work (h : m.Upcoming lane slot op) : (slot, op) ∈ lane.work := by
  obtain ⟨rest, hq⟩ := h.queue
  rw [Lane.work, hq]
  exact List.mem_cons_self

omit [Scalar α] in
/-- The machine with a lane in the place of the one of the same stream. -/
def setLane (m : Machine σ α) (lane : Lane α) : Machine σ α :=
  { m with lanes := m.lanes.map fun old =>
      if old.stream.index = lane.stream.index then lane else old }

/-- The move of a lane is the move of the machine. -/
theorem worker?_of_mem (hm : m.Sound) (hmem : lane ∈ m.lanes) {lane' : Lane α} {after : σ}
    {performed : Option (Nat × Op α)}
    (h : lane.advance? ops m.memory = some (lane', after, performed)) :
    m.worker? ops lane.stream.index
      = some { m.setLane lane' with
          memory := after
          performed := m.performed ++ performed.toList } := by
  rw [setLane, Lane.index_of_advance? h]
  unfold worker?
  rw [lane?_of_mem hm hmem, Option.bind_eq_bind, Option.bind_some, h]
  rfl

/-- **An upcoming operation is carried out in the next move of its worker.** -/
theorem worker?_of_upcoming (ops : Operators σ α) (hm : m.Sound) (h : m.Upcoming lane slot op) :
    ∃ lane', m.worker? ops lane.stream.index
        = some { m.setLane lane' with
            memory := (lane.stream.worker.perform ops slot op m.memory).2
            performed := m.performed ++ [(slot, op)] }
      ∧ lane'.stream = { lane.stream with
          worker := (lane.stream.worker.perform ops slot op m.memory).1 } := by
  obtain ⟨rest, hqueue⟩ := h.queue
  obtain ⟨hl, hf⟩ := Worker.status_eq_done.mp h.status
  have hadv : lane.advance? ops m.memory = some
      ({ stream := { lane.stream with
          worker := (lane.stream.worker.perform ops slot op m.memory).1 }
         queue := if (lane.stream.worker.perform ops slot op m.memory).1.lost then [] else rest
         reply := lane.reply },
        (lane.stream.worker.perform ops slot op m.memory).2, some (slot, op)) := by
    simp [Lane.advance?, hl, hf, hqueue]
  exact ⟨_, worker?_of_mem hm h.mem hadv, rfl⟩

/-- **An operation behind a failure is dropped**: no collaborator is called and no worker
changes. -/
theorem worker?_of_failed (ops : Operators σ α) (hm : m.Sound) (hmem : lane ∈ m.lanes)
    {e : StepError} (hs : lane.stream.worker.status = .failed e) {rest : List (Message α)}
    (hq : lane.queue = .work slot op :: rest) :
    m.worker? ops lane.stream.index = some (m.setLane { lane with queue := rest }) := by
  obtain ⟨hl, hf⟩ := Worker.status_eq_failed.mp hs
  have hperform := Worker.perform_of_status_ne ops (by rw [hs]; simp) slot op m.memory
  have hadv : lane.advance? ops m.memory
      = some ({ lane with queue := rest }, m.memory, none) := by
    simp [Lane.advance?, hl, hf, hq, hperform]
  rw [worker?_of_mem hm hmem hadv, Option.toList_none, List.append_nil]
  rfl

/-! ## Workers that are gone -/

omit [Scalar α] in
/-- The worker of a stream is gone. -/
def Lost (m : Machine σ α) (t : StreamIndex) : Prop :=
  ∃ lane ∈ m.lanes, lane.stream.index = t ∧ lane.stream.worker.lost = true

omit [Scalar α] in
/-- The issuing side loses no stream. -/
theorem lost_issuer?_iff {t : StreamIndex} (h : m.issuer? d = some m') : m'.Lost t ↔ m.Lost t := by
  have hmem : ∀ n : Machine σ α, n.Lost t
      ↔ ∃ w ∈ n.lanes.map (·.stream.worker), w.stream = t ∧ w.lost = true := by
    simp [Lost, Stream.index]
  rw [hmem, hmem, workers_of_issuer? h]

/-- A worker that is gone does not come back. -/
theorem Lost.worker? {t : StreamIndex} (hm : m.Sound) (h : m.Lost t) {u : StreamIndex}
    (hmove : m.worker? ops u = some m') : m'.Lost t := by
  obtain ⟨lane, lane', after, performed, hlane, hadv, rfl⟩ := worker?_cases hmove
  obtain ⟨hmem, rfl⟩ := mem_of_lane? hlane
  obtain ⟨gone, hgone, rfl, hl⟩ := h
  refine ⟨gone, List.mem_map.mpr ⟨gone, hgone, if_neg fun hi => ?_⟩, rfl, hl⟩
  rw [eq_of_index hm.nodup hgone hmem hi, (Lane.advance?_cases ops hadv).1] at hl
  cases hl

/-- **A worker is lost in carrying out an operation.** -/
theorem Lost.of_worker? {t u : StreamIndex} (hmove : m.worker? ops u = some m') (h : m'.Lost t) :
    m.Lost t ∨ u = t ∧ ∃ lane slot op, m.Upcoming lane slot op ∧ lane.stream.index = t
      ∧ (lane.stream.worker.perform ops slot op m.memory).1.lost = true := by
  obtain ⟨lane, lane', after, performed, hlane, hadv, rfl⟩ := worker?_cases hmove
  obtain ⟨hmem, rfl⟩ := mem_of_lane? hlane
  obtain ⟨_, hnew, rfl, hl⟩ := h
  obtain ⟨old, hold, rfl⟩ := List.mem_map.mp hnew
  by_cases hi : old.stream.index = lane.stream.index
  · rw [if_pos hi] at hl ⊢
    have hindex := Lane.index_of_advance? hadv
    rcases Lane.performed_of_advance? hadv with ⟨_, -, hst, -⟩ | ⟨slot, op, rest, hq, hst, -⟩
    · rw [hst] at hl
      exact .inl ⟨lane, hmem, hindex.symm, hl⟩
    · rw [hst] at hl
      by_cases hs : lane.stream.worker.status = .done
      · exact .inr ⟨hindex.symm, lane, slot, op, ⟨hmem, ⟨rest, hq⟩, hs⟩, hindex.symm, hl⟩
      · rw [Worker.perform_of_status_ne ops hs] at hl
        exact .inl ⟨lane, hmem, hindex.symm, hl⟩
  · rw [if_neg hi] at hl ⊢
    exact .inl ⟨old, hold, rfl, hl⟩

end Machine

end MethodOfLines
