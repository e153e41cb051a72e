import MethodOfLines.Proofs.Schedule

/-!
# Proofs/Prompt — carrying out each operation as it is issued is one of the schedules

A **prompt** schedule lets the worker move right after each operation is sent to it, and at the end
of a stage right after it is asked.  Then the queues are empty whenever a request is made, and the
machine does what the pool without queues does, also where collaborators remember or crash
(`Machine.exists_prompt`).  So a step as such is a step under a schedule
(`Stepper.exists_stepUnder_eq_step`), and what holds under every schedule holds of it.
-/

namespace MethodOfLines

variable {σ α : Type}

/-! ## One lane -/

namespace Lane

/-- A lane with nothing in its queue, once it has been asked for its error. -/
def closed (lane : Lane α) : Lane α :=
  if lane.stream.worker.lost then { lane with reply := none }
  else { stream := lane.stream.cleared, queue := [], reply := some lane.stream.worker.failed }

@[simp] theorem index_closed (lane : Lane α) : lane.closed.stream.index = lane.stream.index := by
  unfold closed
  split <;> rfl

theorem stream_closed {lane : Lane α} (h : lane.Tidy) :
    lane.closed.stream = lane.stream.cleared := by
  unfold closed
  split
  · next hl => exact (Stream.cleared_of_failed (h.1 hl)).symm
  · rfl

theorem answer?_closed (lane : Lane α) (stage : Stage α) :
    lane.closed.answer? stage = some (lane.stream.answer stage) := by
  unfold closed answer? Stream.answer
  cases hl : lane.stream.worker.lost <;> simp [hl]

variable [Scalar α] (ops : Operators σ α)

/-- A lane with nothing in its queue, once an operation sent to it has been carried out. -/
def prompt (b : Binding α) (op : Op α) (memory : σ) (lane : Lane α) : Lane α :=
  { lane with stream := (lane.stream.accept ops b op memory).1 }

/-- The operation sent is the next the worker carries out. -/
theorem advance?_send {lane : Lane α} (hq : lane.queue = [])
    (hl : lane.stream.worker.lost = false) (b : Binding α) (op : Op α) (memory : σ) :
    ∃ performed, ((lane.note b.descriptor.id).send (.work b.slot op)).advance? ops memory
      = some (lane.prompt ops b op memory, (lane.stream.accept ops b op memory).2, performed) := by
  obtain ⟨stream, queue, reply⟩ := lane
  cases hq
  have hl' : stream.worker.lost = false := hl
  simp only [note, send, advance?, hl', Bool.false_eq_true, if_false, List.nil_append, prompt,
    Stream.accept, ite_self]
  exact ⟨_, rfl⟩

/-- A lane whose worker is gone takes nothing. -/
theorem send_eq_prompt {lane : Lane α} (hl : lane.stream.worker.lost = true) (b : Binding α)
    (op : Op α) (memory : σ) :
    (lane.note b.descriptor.id).send (.work b.slot op) = lane.prompt ops b op memory
      ∧ (lane.stream.accept ops b op memory).2 = memory := by
  have hskip : lane.stream.worker.perform ops b.slot op memory = (lane.stream.worker, memory) := by
    rw [Worker.perform, if_pos (by simp [hl])]
  have hl' : (lane.note b.descriptor.id).stream.worker.lost = true := hl
  rw [send, if_pos hl', prompt, Stream.accept, hskip]
  exact ⟨rfl, rfl⟩

/-- The question asked is the next message the worker takes. -/
theorem advance?_send_fence {lane : Lane α} (hq : lane.queue = [])
    (hl : lane.stream.worker.lost = false) (memory : σ) :
    (({ lane with reply := none } : Lane α).send .fence).advance? ops memory
      = some (lane.closed, memory, none) := by
  obtain ⟨stream, queue, reply⟩ := lane
  cases hq
  have hl' : stream.worker.lost = false := hl
  simp only [send, advance?, closed, hl', Bool.false_eq_true, if_false, List.nil_append]

theorem advance?_of_lost {lane : Lane α} (hl : lane.stream.worker.lost = true) (memory : σ) :
    lane.advance? ops memory = none := by
  simp only [advance?, hl, if_true]

end Lane

namespace Machine

/-- No request is under way, and nothing is left in the queues. -/
structure Idle (m : Machine σ α) : Prop where
  sound : m.Sound
  free : m.waiting = none
  queues : ∀ lane ∈ m.lanes, lane.queue = []

theorem stream?_pool (m : Machine σ α) (s : StreamIndex) :
    m.pool.stream? s = (m.lanes.find? (·.stream.index = s)).map (·.stream) := by
  rw [Pool.stream?, pool, List.find?_map]
  rfl

/-- The lane of a stream, among lanes changed in a way that leaves their streams. -/
theorem find?_lane_map {f : Lane α → Lane α}
    (hf : ∀ lane, (f lane).stream.index = lane.stream.index) (lanes : List (Lane α))
    (s : StreamIndex) :
    (lanes.map f).find? (·.stream.index = s) = (lanes.find? (·.stream.index = s)).map f := by
  rw [List.find?_map]
  simp only [Function.comp_def, hf]

theorem find?_lane_of_mem {lanes : List (Lane α)} (hn : (lanes.map (·.stream.index)).Nodup)
    {lane : Lane α} (h : lane ∈ lanes) :
    lanes.find? (·.stream.index = lane.stream.index) = some lane := by
  obtain ⟨lane', hfind⟩ : ∃ lane', lanes.find? (·.stream.index = lane.stream.index) = some lane' :=
    Option.isSome_iff_exists.mp (List.find?_isSome.mpr ⟨lane, h, by simp⟩)
  obtain ⟨hmem, hi⟩ := mem_of_lane? hfind
  rw [hfind, eq_of_index hn hmem h hi]

variable [Scalar α] {ops : Operators σ α} {d : Discipline} {m m' : Machine σ α}

/-! ## An operation -/

/-- An operation sent is answered as the pool answers it. -/
theorem sent_eq_serve (ops : Operators σ α) (m : Machine σ α) (b : Binding α) (call : StageCall α)
    (op : Op α) : m.sent b call = (m.pool.serve ops (.submit b call op)).1 := by
  have hst := stream?_pool m b.stream
  rw [Pool.serve_submit, sent]
  cases hlane : m.lanes.find? (·.stream.index = b.stream) with
  | none =>
    rw [hlane, Option.map_none] at hst
    simp only [Pool.submit, hst]
    rfl
  | some lane =>
    rw [hlane, Option.map_some] at hst
    rw [Pool.submit_fst ops _ b call op hst]
    cases hl : lane.stream.worker.lost <;> simp [hl, Except.mapError]

theorem worker?_of_none {s : StreamIndex} (h : m.lanes.find? (·.stream.index = s) = none) :
    m.worker? ops s = none := by
  rw [worker?, h]
  rfl

theorem worker?_of_stuck {s : StreamIndex} {lane : Lane α}
    (h : m.lanes.find? (·.stream.index = s) = some lane) (ha : lane.advance? ops m.memory = none) :
    m.worker? ops s = none := by
  rw [worker?, h, Option.bind_eq_bind, Option.bind_some, ha]
  rfl

theorem worker?_of_advance? {s : StreamIndex} {lane lane' : Lane α} {memory : σ}
    {performed : Option (Nat × Op α)} (h : m.lanes.find? (·.stream.index = s) = some lane)
    (ha : lane.advance? ops m.memory = some (lane', memory, performed)) :
    m.worker? ops s = some { m with
      memory
      lanes := m.lanes.map fun old => if old.stream.index = s then lane' else old
      performed := m.performed ++ performed.toList } := by
  rw [worker?, h, Option.bind_eq_bind, Option.bind_some, ha]
  rfl

section Replace

variable {lanes : List (Lane α)} {lane : Lane α} {s : StreamIndex}

omit [Scalar α] in
/-- Only one lane belongs to a stream. -/
theorem map_lane_self (hn : (lanes.map (·.stream.index)).Nodup) (hmem : lane ∈ lanes)
    (hi : lane.stream.index = s) (f g : Lane α → Lane α) :
    (lanes.map fun old => if old.stream.index = s then g lane else f old)
      = lanes.map fun old => if old.stream.index = s then g old else f old := by
  refine List.map_congr_left fun old hold => ?_
  split
  · next hi' => rw [eq_of_index hn hold hmem (hi'.trans hi.symm)]
  · rfl

omit [Scalar α] in
theorem find?_map_of_mem (hn : (lanes.map (·.stream.index)).Nodup) (hmem : lane ∈ lanes)
    (hi : lane.stream.index = s) {f : Lane α → Lane α}
    (hf : ∀ lane, (f lane).stream.index = lane.stream.index) :
    (lanes.map f).find? (·.stream.index = s) = some (f lane) := by
  rw [find?_lane_map hf, ← hi, find?_lane_of_mem hn hmem, Option.map_some]

/-- **A worker moves among lanes that were changed where they stand**: its own lane moves on. -/
theorem worker?_map (hn : (lanes.map (·.stream.index)).Nodup) (hmem : lane ∈ lanes)
    (hi : lane.stream.index = s) {f : Lane α → Lane α}
    (hf : ∀ lane, (f lane).stream.index = lane.stream.index) (hlanes : m.lanes = lanes.map f)
    {lane' : Lane α} {memory : σ} {performed : Option (Nat × Op α)}
    (ha : (f lane).advance? ops m.memory = some (lane', memory, performed)) :
    m.worker? ops s = some { m with
      memory
      lanes := lanes.map fun old => if old.stream.index = s then lane' else f old
      performed := m.performed ++ performed.toList } := by
  have hfind := find?_map_of_mem hn hmem hi hf
  rw [← hlanes] at hfind
  rw [worker?_of_advance? hfind ha, hlanes, List.map_map]
  simp only [Function.comp_def, hf]

end Replace

/-- The machine once an operation has been sent and carried out. -/
def prompted (ops : Operators σ α) (d : Discipline) (m : Machine σ α) (b : Binding α)
    (call : StageCall α) (op : Op α) (rest : List (Request α)) (performed : List (Nat × Op α)) :
    Machine σ α :=
  { m.posted d b call op rest with
    memory := (m.pool.absorb ops b op).memory
    performed
    lanes := m.lanes.map fun lane =>
      if lane.stream.index = b.stream then lane.prompt ops b op m.memory else lane }

omit [Scalar α] in
theorem index_sendTo (b : Binding α) (op : Op α) (lane : Lane α) :
    (if lane.stream.index = b.stream then (lane.note b.descriptor.id).send (.work b.slot op)
      else lane).stream.index = lane.stream.index := by
  split
  · rw [stream_send]
    rfl
  · rfl

/-- An operation sent to a stream that has no lane. -/
theorem posted_of_absent (ops : Operators σ α) (d : Discipline) {b : Binding α}
    (h : m.lanes.find? (·.stream.index = b.stream) = none) (call : StageCall α) (op : Op α)
    (rest : List (Request α)) :
    m.posted d b call op rest = m.prompted ops d b call op rest m.performed := by
  have hst := stream?_pool m b.stream
  rw [h, Option.map_none] at hst
  have hlanes : (m.posted d b call op rest).lanes = m.lanes.map fun lane =>
      if lane.stream.index = b.stream then lane.prompt ops b op m.memory else lane := by
    refine List.map_congr_left fun lane hmem => ?_
    have hne : ¬ lane.stream.index = b.stream := by simpa using List.find?_eq_none.mp h lane hmem
    rw [if_neg hne, if_neg hne]
  rw [prompted, ← hlanes, Pool.absorb, Pool.onStream, hst]
  rfl

/-- An operation sent to a stream whose worker is gone. -/
theorem posted_of_lost (ops : Operators σ α) (d : Discipline) (hm : m.Idle) {b : Binding α}
    {lane : Lane α} (h : m.lanes.find? (·.stream.index = b.stream) = some lane)
    (hl : lane.stream.worker.lost = true) (call : StageCall α) (op : Op α)
    (rest : List (Request α)) :
    m.posted d b call op rest = m.prompted ops d b call op rest m.performed := by
  have hst := stream?_pool m b.stream
  rw [h, Option.map_some] at hst
  obtain ⟨hmem, hi⟩ := mem_of_lane? h
  obtain ⟨hsend, hmemory⟩ := Lane.send_eq_prompt ops hl b op m.memory
  have hlanes : (m.posted d b call op rest).lanes = m.lanes.map fun lane =>
      if lane.stream.index = b.stream then lane.prompt ops b op m.memory else lane := by
    refine (map_lane_self hm.sound.nodup hmem hi id
      fun lane => (lane.note b.descriptor.id).send (.work b.slot op)).symm.trans ?_
    rw [hsend]
    exact map_lane_self hm.sound.nodup hmem hi id (Lane.prompt ops b op m.memory)
  rw [prompted, ← hlanes, Pool.absorb, Pool.onStream_of_some hst]
  exact congrArg (fun memory => { m.posted d b call op rest with memory }) hmemory.symm

/-- **The worker moves right after an operation was sent to it.** -/
theorem worker?_posted (ops : Operators σ α) (d : Discipline) (hm : m.Idle) (b : Binding α)
    (call : StageCall α) (op : Op α) (rest : List (Request α)) :
    ∃ performed, ((m.posted d b call op rest).worker? ops b.stream).getD (m.posted d b call op rest)
      = m.prompted ops d b call op rest performed := by
  have hfind := find?_lane_map (index_sendTo b op) m.lanes b.stream
  cases hlane : m.lanes.find? (·.stream.index = b.stream) with
  | none =>
    rw [hlane, Option.map_none] at hfind
    exact ⟨_, by rw [worker?_of_none hfind, Option.getD_none, posted_of_absent ops d hlane]⟩
  | some lane =>
    obtain ⟨hmem, hi⟩ := mem_of_lane? hlane
    rw [hlane, Option.map_some, if_pos hi] at hfind
    cases hl : lane.stream.worker.lost with
    | true =>
      refine ⟨m.performed, ?_⟩
      rw [worker?_of_stuck hfind (Lane.advance?_of_lost ops (by rw [stream_send]; exact hl) _),
        Option.getD_none, posted_of_lost ops d hm hlane hl]
    | false =>
      obtain ⟨performed, hadv⟩ := Lane.advance?_send ops (hm.queues lane hmem) hl b op m.memory
      have hst := stream?_pool m b.stream
      rw [hlane, Option.map_some] at hst
      have hworker := worker?_map (m := m.posted d b call op rest) hm.sound.nodup hmem hi
        (index_sendTo b op) rfl ((congrArg (Lane.advance? ops · m.memory) (if_pos hi)).trans hadv)
      have hlanes : (m.lanes.map fun old => if old.stream.index = b.stream then
            lane.prompt ops b op m.memory
          else if old.stream.index = b.stream then
            (old.note b.descriptor.id).send (.work b.slot op) else old)
          = m.lanes.map fun lane =>
            if lane.stream.index = b.stream then lane.prompt ops b op m.memory else lane := by
        rw [map_lane_self hm.sound.nodup hmem hi _ (Lane.prompt ops b op m.memory)]
        refine List.map_congr_left fun old _ => ?_
        split <;> rfl
      refine ⟨m.performed ++ performed.toList, ?_⟩
      rw [hworker, Option.getD_some, prompted, hlanes, Pool.absorb, Pool.onStream_of_some hst]
      rfl

/-- **The machine has served a request as the pool does**, and goes on with the rest. -/
structure Served (ops : Operators σ α) (d : Discipline) (m : Machine σ α) (request : Request α)
    (rest : List (Request α)) (m' : Machine σ α) : Prop where
  idle : m'.Idle
  pool : m'.pool = (m.pool.serve ops request).2
  results : m'.results = m.results ++ [(m.pool.serve ops request).1]
  pending : m'.pending = d.onward (m.pool.serve ops request).1 rest

omit [Scalar α] in
theorem nodup_indices_pool (hm : m.Sound) : m.pool.indices.Nodup := by
  rw [Pool.indices, pool, List.map_map]
  exact hm.nodup

theorem pool_prompted (ops : Operators σ α) (d : Discipline) (hm : m.Sound) (b : Binding α)
    (call : StageCall α) (op : Op α) (rest : List (Request α)) (performed : List (Nat × Op α)) :
    (m.prompted ops d b call op rest performed).pool = m.pool.absorb ops b op := by
  have hstreams : (m.prompted ops d b call op rest performed).pool.streams
      = (m.pool.absorb ops b op).streams := by
    rw [Pool.streams_absorb ops (nodup_indices_pool hm), pool, pool, prompted, List.map_map,
      List.map_map]
    refine List.map_congr_left fun lane _ => ?_
    rw [Function.comp_apply, Function.comp_apply]
    by_cases hi : lane.stream.index = b.stream
    · rw [if_pos hi, if_pos hi]
      rfl
    · rw [if_neg hi, if_neg hi]
  have hsize : (m.pool.absorb ops b op).size = m.pool.size := by
    rw [Pool.absorb, Pool.onStream]
    cases m.pool.stream? b.stream <;> rfl
  have hbindings : (m.pool.absorb ops b op).bindings = m.pool.bindings := by
    rw [Pool.absorb, Pool.bindings_onStream]
  calc (m.prompted ops d b call op rest performed).pool
      = ⟨m.pool.size, m.pool.bindings, (m.pool.absorb ops b op).streams,
          (m.pool.absorb ops b op).memory⟩ := congrArg (Pool.mk _ _ · _) hstreams
    _ = m.pool.absorb ops b op := by rw [← hsize, ← hbindings]

theorem served_submit (ops : Operators σ α) (d : Discipline) (hm : m.Idle) {b : Binding α}
    {call : StageCall α} {op : Op α} {rest : List (Request α)}
    (hp : m.pending = .submit b call op :: rest) :
    Served ops d m (.submit b call op) rest (m.run ops d [.issuer, .worker b.stream]) := by
  have hissue : m.move? ops d .issuer = some (m.posted d b call op rest) := by
    simp only [move?, issuer?, hm.free, hp]
    rfl
  have hsound := sound_run ops d hm.sound [.issuer, .worker b.stream]
  obtain ⟨performed, hworker⟩ := worker?_posted ops d hm b call op rest
  have hrun : m.run ops d [.issuer, .worker b.stream]
      = m.prompted ops d b call op rest performed := by
    rw [run_cons, hissue]
    exact hworker
  rw [hrun] at hsound ⊢
  refine ⟨⟨hsound, rfl, ?_⟩, ?_, ?_, ?_⟩
  · exact forall_replace (fun lane hmem _ => hm.queues lane hmem) fun lane hmem _ =>
      hm.queues lane hmem
  · rw [pool_prompted ops d hm.sound, Pool.serve_submit]
  · rw [← sent_eq_serve]
    rfl
  · rw [← sent_eq_serve]
    exact pending_answered m d rest _

/-! ## The end of a stage -/

/-- An idle machine at the end of a stage, with some streams still to be asked, and all others
having answered. -/
def closing (m : Machine σ α) (stage : Stage α) (rest : List (Request α))
    (unasked : List StreamIndex) : Machine σ α :=
  { m with
    waiting := some stage
    unasked
    pending := rest
    lanes := m.lanes.map fun lane =>
      if lane.stream.index ∈ unasked then { lane with reply := none } else lane.closed }

omit [Scalar α] in
theorem halted_eq_closing (m : Machine σ α) (stage : Stage α) (rest : List (Request α)) :
    m.halted stage rest = m.closing stage rest (m.lanes.map (·.stream.index)) := by
  have hlanes : (m.lanes.map fun lane : Lane α => ({ lane with reply := none } : Lane α))
      = m.lanes.map fun lane =>
        if lane.stream.index ∈ m.lanes.map (·.stream.index) then { lane with reply := none }
        else lane.closed :=
    List.map_congr_left fun lane hmem => by rw [if_pos (List.mem_map_of_mem hmem)]
  rw [halted, closing, hlanes]

/-- A lane once stream `s` has been asked and the streams of `l` are still to be asked. -/
def asked (s : StreamIndex) (l : List StreamIndex) (lane : Lane α) : Lane α :=
  if lane.stream.index = s then ({ lane with reply := none } : Lane α).send .fence
  else if lane.stream.index ∈ l then { lane with reply := none }
  else lane.closed

omit [Scalar α] in
theorem index_asked (s : StreamIndex) (l : List StreamIndex) (lane : Lane α) :
    (asked s l lane).stream.index = lane.stream.index := by
  rw [asked]
  split
  · rw [stream_send]
  · split
    · rfl
    · exact Lane.index_closed lane

/-- The issuer asks the next stream. -/
theorem issuer_closing (ops : Operators σ α) (d : Discipline) (m : Machine σ α) (stage : Stage α)
    (rest : List (Request α)) (s : StreamIndex) (l : List StreamIndex) :
    (m.closing stage rest (s :: l)).move? ops d .issuer
      = some { m.closing stage rest l with lanes := m.lanes.map (asked s l) } := by
  refine congrArg (fun lanes => some { m.closing stage rest l with lanes }) ?_
  rw [asking, closing, List.map_map]
  refine List.map_congr_left fun old _ => ?_
  rw [Function.comp_apply, asked]
  by_cases hi : old.stream.index = s
  · simp [hi]
  · simp only [List.mem_cons, hi, false_or, if_false]
    split <;> simp [hi]

omit [Scalar α] in
/-- The lanes once the stream that was asked has answered. -/
theorem lanes_closing (hm : m.Sound) (stage : Stage α) (rest : List (Request α)) {lane : Lane α}
    (hmem : lane ∈ m.lanes) {l : List StreamIndex} (hnot : lane.stream.index ∉ l) :
    (m.lanes.map fun old => if old.stream.index = lane.stream.index then lane.closed
        else asked lane.stream.index l old)
      = (m.closing stage rest l).lanes := by
  rw [map_lane_self hm.nodup hmem rfl _ Lane.closed]
  refine List.map_congr_left fun old _ => ?_
  by_cases hi : old.stream.index = lane.stream.index
  · rw [if_pos hi, hi, if_neg hnot]
  · rw [if_neg hi, asked, if_neg hi]

/-- **A stream is asked, and answers at once.** -/
theorem run_closing_cons (ops : Operators σ α) (d : Discipline) (hm : m.Idle) (stage : Stage α)
    (rest : List (Request α)) {lane : Lane α} (hmem : lane ∈ m.lanes) {l : List StreamIndex}
    (hnot : lane.stream.index ∉ l) :
    (m.closing stage rest (lane.stream.index :: l)).run ops d
        [.issuer, .worker lane.stream.index]
      = m.closing stage rest l := by
  have hasked : asked lane.stream.index l lane
      = ({ lane with reply := none } : Lane α).send .fence := if_pos rfl
  have hclosing := lanes_closing hm.sound stage rest hmem hnot
  rw [run_cons, issuer_closing, Option.getD_some, run_cons, move?]
  cases hl : lane.stream.worker.lost with
  | false =>
    have hadv := Lane.advance?_send_fence ops (hm.queues lane hmem) hl m.memory
    rw [← hasked] at hadv
    rw [worker?_map (m := { m.closing stage rest l with lanes := _ }) hm.sound.nodup hmem rfl
      (index_asked lane.stream.index l) rfl hadv, hclosing]
    exact congrArg (fun performed => { m.closing stage rest l with performed }) (List.append_nil _)
  | true =>
    have hgone : asked lane.stream.index l lane = lane.closed := by
      rw [hasked, Lane.closed, if_pos hl, Lane.send]
      exact if_pos hl
    rw [worker?_of_stuck (m := { m.closing stage rest l with lanes := _ })
      (find?_map_of_mem hm.sound.nodup hmem rfl (index_asked lane.stream.index l))
      (Lane.advance?_of_lost ops (by rw [hasked, stream_send]; exact hl) _)]
    have hlanes : m.lanes.map (asked lane.stream.index l) = (m.closing stage rest l).lanes := by
      rw [← hclosing, ← hgone, map_lane_self hm.sound.nodup hmem rfl _ (asked _ l)]
      exact List.map_congr_left fun old _ => (ite_self _).symm
    exact congrArg (fun lanes => { m.closing stage rest l with lanes }) hlanes

/-- All streams are asked, one after the other, and each answers at once. -/
theorem run_closing (ops : Operators σ α) (d : Discipline) (hm : m.Idle) (stage : Stage α)
    (rest : List (Request α)) {l : List StreamIndex} (hn : l.Nodup)
    (hsub : l ⊆ m.lanes.map (·.stream.index)) :
    (m.closing stage rest l).run ops d (l.flatMap fun s => [.issuer, .worker s])
      = m.closing stage rest [] := by
  induction l with
  | nil => rfl
  | cons s l ih =>
    obtain ⟨lane, hmem, rfl⟩ := List.mem_map.mp (hsub List.mem_cons_self)
    obtain ⟨hnot, hn⟩ := List.nodup_cons.mp hn
    rw [List.flatMap_cons, run_append, run_closing_cons ops d hm stage rest hmem hnot,
      ih hn fun t ht => hsub (List.mem_cons_of_mem _ ht)]

omit [Scalar α] in
theorem lanes_closing_nil (m : Machine σ α) (stage : Stage α) (rest : List (Request α)) :
    (m.closing stage rest []).lanes = m.lanes.map Lane.closed :=
  List.map_congr_left fun _ _ => if_neg List.not_mem_nil

omit [Scalar α] in
/-- The answer collected is that of the pool. -/
theorem collected?_closing (m : Machine σ α) (stage : Stage α) (rest : List (Request α)) :
    (m.closing stage rest []).collected? stage = some (m.pool.fence stage).1 := by
  have hmapM : ∀ lanes : List (Lane α), (lanes.map Lane.closed).mapM (·.answer? stage)
      = some (lanes.map (·.stream.answer stage)) := by
    intro lanes
    induction lanes with
    | nil => rfl
    | cons lane lanes ih => simp [List.mapM_cons, ih, Lane.answer?_closed]
  have hfind : (m.lanes.map (·.stream.answer stage)).findSome? id
      = m.pool.streams.findSome? (·.answer stage) := by
    rw [pool, List.findSome?_map, List.findSome?_map]
    rfl
  rw [collected?, lanes_closing_nil, hmapM, Pool.fence_fst, ← hfind, Option.bind_eq_bind,
    Option.bind_some]
  cases (m.lanes.map (·.stream.answer stage)).findSome? id <;> rfl

theorem served_fence (ops : Operators σ α) (d : Discipline) (hm : m.Idle) {stage : Stage α}
    {rest : List (Request α)} (hp : m.pending = .fence stage :: rest) :
    Served ops d m (.fence stage) rest (m.run ops d (.issuer ::
      ((m.lanes.map (·.stream.index)).flatMap fun s => [.issuer, .worker s]) ++ [.issuer])) := by
  obtain ⟨schedule, hschedule⟩ : ∃ schedule : Schedule, schedule = .issuer ::
    ((m.lanes.map (·.stream.index)).flatMap fun s => [.issuer, .worker s]) ++ [.issuer] := ⟨_, rfl⟩
  have hhalt : m.move? ops d .issuer = some (m.halted stage rest) := by
    simp only [move?, issuer?, hm.free, hp]
    rfl
  have hcollect : (m.closing stage rest []).move? ops d .issuer
      = some ((m.closing stage rest []).answered d rest (m.pool.fence stage).1) := by
    have hmove : (m.closing stage rest []).move? ops d .issuer
        = ((m.closing stage rest []).collected? stage).map
          ((m.closing stage rest []).answered d rest) := rfl
    rw [hmove, collected?_closing]
    rfl
  have hrun : m.run ops d schedule
      = (m.closing stage rest []).answered d rest (m.pool.fence stage).1 := by
    rw [hschedule, List.cons_append, run_cons, hhalt, Option.getD_some, halted_eq_closing,
      run_append, run_closing ops d hm stage rest hm.sound.nodup (List.Subset.refl _), run_cons,
      hcollect]
    rfl
  have hsound := sound_run ops d hm.sound schedule
  rw [← hschedule, hrun]
  rw [hrun] at hsound
  refine ⟨⟨hsound, rfl, fun lane hmem => ?_⟩, ?_, rfl, pending_answered ..⟩
  · have hmem' : lane ∈ (m.closing stage rest []).lanes := hmem
    rw [lanes_closing_nil] at hmem'
    obtain ⟨old, hold, rfl⟩ := List.mem_map.mp hmem'
    unfold Lane.closed
    split
    · exact hm.queues old hold
    · rfl
  · rw [Pool.serve, Pool.fence_snd]
    refine congrArg (Pool.mk _ _ · _) ?_
    refine (congrArg (List.map (·.stream)) (lanes_closing_nil m stage rest)).trans ?_
    rw [pool, List.map_map, List.map_map]
    exact List.map_congr_left fun lane hmem => Lane.stream_closed (hm.sound.tidy lane hmem)

/-! ## All requests -/

omit [Scalar α] in
theorem Idle.isFinished (hm : m.Idle) (hp : m.pending = []) : m.isFinished = true := by
  simp only [Machine.isFinished, hp, hm.free, List.isEmpty_nil, Option.isNone_none, Bool.and_self,
    Bool.true_and, List.all_eq_true]
  exact fun lane hmem => by rw [Lane.isIdle, hm.queues lane hmem]; rfl

theorem exists_served (ops : Operators σ α) (d : Discipline) (hm : m.Idle) {request : Request α}
    {rest : List (Request α)} (hp : m.pending = request :: rest) :
    ∃ schedule, Served ops d m request rest (m.run ops d schedule) := by
  cases request with
  | submit b call op => exact ⟨_, served_submit ops d hm hp⟩
  | fence stage => exact ⟨_, served_fence ops d hm hp⟩

/-- **Some schedule does what the pool does without queues.** -/
theorem exists_prompt (ops : Operators σ α) (d : Discipline) (requests : List (Request α)) :
    ∀ {m : Machine σ α}, m.Idle → m.pending = requests →
      ∃ schedule, (m.run ops d schedule).isFinished = true
        ∧ (m.run ops d schedule).results = m.results ++ (Pool.serveAll ops d requests m.pool).1
        ∧ (m.run ops d schedule).pool = (Pool.serveAll ops d requests m.pool).2 := by
  have hnil : ∀ {m : Machine σ α}, m.Idle → m.pending = [] →
      ∃ schedule, (m.run ops d schedule).isFinished = true
        ∧ (m.run ops d schedule).results = m.results ++ (Pool.serveAll ops d [] m.pool).1
        ∧ (m.run ops d schedule).pool = (Pool.serveAll ops d [] m.pool).2 :=
    fun hm hp => ⟨[], hm.isFinished hp, (List.append_nil _).symm, rfl⟩
  induction requests with
  | nil => exact hnil
  | cons request rest ih =>
    intro m hm hp
    obtain ⟨schedule, hserved⟩ := exists_served ops d hm hp
    have hpending := hserved.pending
    obtain ⟨more, hfinished, hresults, hpool⟩ : ∃ more,
        ((m.run ops d schedule).run ops d more).isFinished = true
          ∧ ((m.run ops d schedule).run ops d more).results = (m.run ops d schedule).results
            ++ (Pool.serveAll ops d (m.run ops d schedule).pending (m.run ops d schedule).pool).1
          ∧ ((m.run ops d schedule).run ops d more).pool
            = (Pool.serveAll ops d (m.run ops d schedule).pending
                (m.run ops d schedule).pool).2 := by
      -- after an error there may be nothing left to ask
      rcases d.onward_cases (m.pool.serve ops request).1 rest with hon | hon
      · rw [hon] at hpending
        rw [hpending]
        exact ih hserved.idle hpending
      · rw [hon] at hpending
        rw [hpending]
        exact hnil hserved.idle hpending
    refine ⟨schedule ++ more, ?_⟩
    rw [run_append, Pool.serveAll_cons]
    refine ⟨hfinished, ?_, ?_⟩
    · rw [hresults, hserved.results, hserved.pending, hserved.pool, List.append_assoc]
      rfl
    · rw [hpool, hserved.pending, hserved.pool]

omit [Scalar α] in
theorem idle_start (size : Nat) (grids : List (Grid α)) (memory : σ)
    (requests : List (Request α)) : (start size grids memory requests).Idle := by
  refine ⟨sound_start size grids memory requests, rfl, fun lane hmem => ?_⟩
  obtain ⟨st, -, rfl⟩ := List.mem_map.mp hmem
  rfl

omit [Scalar α] in
theorem pool_start (size : Nat) (grids : List (Grid α)) (memory : σ)
    (requests : List (Request α)) :
    (start size grids memory requests).pool = Pool.spawn size grids memory := by
  refine congrArg (Pool.mk _ _ · memory) ?_
  rw [start, List.map_map]
  exact List.map_id _

end Machine

namespace Stepper

variable [Scalar α]

/-- **A step as such is a step under a schedule.** -/
theorem exists_stepUnder_eq_step (s : Stepper σ α) (clock : Clock α) (grids : List (Grid α))
    (memory : σ) :
    ∃ schedule, s.stepUnder clock grids memory schedule = some (s.step clock grids memory) := by
  cases hp : s.poisoned with
  | true => exact ⟨[], by simp [stepUnder, step, hp]⟩
  | false =>
    obtain ⟨schedule, hfinished, hresults, hpool⟩ := Machine.exists_prompt s.operators .stop
      (s.requests clock grids memory)
      (Machine.idle_start s.streams grids memory (s.requests clock grids memory)) rfl
    rw [Machine.pool_start] at hresults hpool
    refine ⟨schedule, ?_⟩
    rw [step_eq_conclude hp (Prod.eta _).symm, stepUnder, hp, if_neg (by simp), if_pos hfinished,
      hresults, hpool]
    rfl

end Stepper

end MethodOfLines
