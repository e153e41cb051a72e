import Mathlib
import MethodOfLines.Proofs.Lane
import MethodOfLines.Proofs.Serial

/-!
# Proofs/Interleaving — a pool with queues on its way to what a pool without them comes to

At any point of a run the outcome can be read ahead: work off every queue, give the answers the
lanes are going to give, and carry out the requests not yet made one after the other
(`Machine.expected`).  A move of a worker leaves this outcome as it is, and so does asking a stream
for its error; a request that is answered moves one answer from what is expected to what has been
given.  The one answer that can come out otherwise is that to an operation sent to a stream that is
about to be lost.

* `Machine.move?_cases` — what one move does to the outcome.
* `Machine.exists_isFinished` — every run can be brought to its end.
-/

namespace MethodOfLines

variable {σ α : Type}

/-- A bound on the moves a request takes, with so many lanes. -/
def Request.effort (lanes : Nat) : Request α → Nat
  | .submit .. => lanes + 1
  | .fence _ => (lanes + 1) * lanes + 2

namespace Machine

/-! ## What holds at every point of a run -/

/-- **A machine in good order**: one lane per stream; nothing in the queue of a worker that is gone;
and the question for the error in the queues of exactly those lanes that were asked and have not
answered. -/
structure Sound (m : Machine σ α) : Prop where
  nodup : (m.lanes.map (·.stream.index)).Nodup
  tidy : ∀ lane ∈ m.lanes, lane.Tidy
  free : m.waiting = none → ∀ lane ∈ m.lanes, lane.Working
  unasked : m.waiting ≠ none → m.unasked.Nodup ∧ ∀ lane ∈ m.lanes,
    lane.stream.index ∈ m.unasked → lane.Working ∧ lane.reply = none
  asked : m.waiting ≠ none → ∀ lane ∈ m.lanes, lane.stream.index ∉ m.unasked → lane.Asked

/-- The requests without an answer. -/
def outstanding (m : Machine σ α) : List (Request α) := m.waiting.toList.map .fence ++ m.pending

section Expected

variable [Scalar α] (ops : Operators σ α) (memory : σ) (d : Discipline)

/-- The pool once every queue is worked off. -/
def settled (m : Machine σ α) : Pool σ α :=
  { size := m.size, bindings := m.bindings, streams := m.lanes.map (·.settled ops memory), memory }

/-- The answer to a stage's end, given by the lanes or to come. -/
def forecast (m : Machine σ α) (stage : Stage α) : Except StepError Unit :=
  StepError.result (m.lanes.findSome? (·.forecast ops memory stage))

/-- **The answers that are to come, and the pool that is left.** -/
def expected (m : Machine σ α) : List (Except StepError Unit) × Pool σ α :=
  match m.waiting with
  | none => Pool.serveAll ops d m.pending (m.settled ops memory)
  | some stage =>
    let answer := m.forecast ops memory stage
    let rest := Pool.serveAll ops d (d.onward answer m.pending)
      ((m.settled ops memory).fence stage).2
    (answer :: rest.1, rest.2)

end Expected

/-! ## Lanes replaced -/

theorem eq_of_index {lanes : List (Lane α)} (hn : (lanes.map (·.stream.index)).Nodup)
    {lane lane' : Lane α} (h : lane ∈ lanes) (h' : lane' ∈ lanes)
    (hi : lane.stream.index = lane'.stream.index) : lane = lane' :=
  List.inj_on_of_nodup_map hn h h' hi

theorem mem_of_lane? {lanes : List (Lane α)} {s : StreamIndex} {lane : Lane α}
    (h : lanes.find? (·.stream.index = s) = some lane) : lane ∈ lanes ∧ lane.stream.index = s :=
  ⟨List.mem_of_find?_eq_some h, by simpa using List.find?_some h⟩

/-- What a change of one lane leaves alone in that lane, it leaves alone in all. -/
theorem map_replace {β : Type} {lanes : List (Lane α)} {s : StreamIndex} {change : Lane α → Lane α}
    {f : Lane α → β} (h : ∀ lane ∈ lanes, lane.stream.index = s → f (change lane) = f lane) :
    (lanes.map fun lane => if lane.stream.index = s then change lane else lane).map f
      = lanes.map f := by
  rw [List.map_map]
  refine List.map_congr_left fun lane hmem => ?_
  by_cases hi : lane.stream.index = s
  · rw [Function.comp_apply, if_pos hi, h lane hmem hi]
  · rw [Function.comp_apply, if_neg hi]

theorem forall_replace {lanes : List (Lane α)} {s : StreamIndex} {change : Lane α → Lane α}
    {P : Lane α → Prop} (h : ∀ lane ∈ lanes, lane.stream.index = s → P (change lane))
    (h' : ∀ lane ∈ lanes, lane.stream.index ≠ s → P lane) :
    ∀ lane ∈ lanes.map fun lane => if lane.stream.index = s then change lane else lane, P lane := by
  intro lane hmem
  obtain ⟨old, hold, rfl⟩ := List.mem_map.mp hmem
  by_cases hi : old.stream.index = s
  · rw [if_pos hi]
    exact h old hold hi
  · rw [if_neg hi]
    exact h' old hold hi

section Moves

variable [Scalar α] {ops : Operators σ α} {d : Discipline} {m m' : Machine σ α}

theorem expected_of_free (ops : Operators σ α) (memory : σ) (d : Discipline)
    (hw : m.waiting = none) :
    m.expected ops memory d = Pool.serveAll ops d m.pending (m.settled ops memory) := by
  rw [expected, hw]

theorem expected_of_waiting (ops : Operators σ α) (memory : σ) (d : Discipline) {stage : Stage α}
    (hw : m.waiting = some stage) :
    m.expected ops memory d
      = (m.forecast ops memory stage ::
          (Pool.serveAll ops d (d.onward (m.forecast ops memory stage) m.pending)
            ((m.settled ops memory).fence stage).2).1,
        (Pool.serveAll ops d (d.onward (m.forecast ops memory stage) m.pending)
          ((m.settled ops memory).fence stage).2).2) := by
  rw [expected, hw]

theorem expected_congr (ops : Operators σ α) (memory : σ) (d : Discipline)
    (hw : m'.waiting = m.waiting) (hp : m'.pending = m.pending)
    (hs : m'.settled ops memory = m.settled ops memory)
    (hf : ∀ stage, m.waiting = some stage →
      m'.forecast ops memory stage = m.forecast ops memory stage) :
    m'.expected ops memory d = m.expected ops memory d := by
  cases h : m.waiting with
  | none =>
    rw [expected_of_free ops memory d (hw.trans h), expected_of_free ops memory d h, hp, hs]
  | some stage =>
    rw [expected_of_waiting ops memory d (hw.trans h), expected_of_waiting ops memory d h, hp, hs,
      hf stage h]

/-! ## A worker's move -/

/-- What a worker's move does to the machine. -/
theorem worker?_cases {s : StreamIndex} (h : m.worker? ops s = some m') :
    ∃ lane lane' after performed, m.lanes.find? (·.stream.index = s) = some lane
      ∧ lane.advance? ops m.memory = some (lane', after, performed)
      ∧ m' = { m with
          memory := after
          lanes := m.lanes.map fun old => if old.stream.index = s then lane' else old
          performed := m.performed ++ performed.toList } := by
  unfold worker? at h
  simp only [Option.bind_eq_bind, Option.bind_eq_some_iff, Option.pure_def, Option.some.injEq] at h
  obtain ⟨lane, hlane, ⟨lane', after, performed⟩, hadv, rfl⟩ := h
  exact ⟨lane, lane', after, performed, hlane, hadv, rfl⟩

theorem sound_of_worker? (hm : m.Sound) {s : StreamIndex} (h : m.worker? ops s = some m') :
    m'.Sound := by
  obtain ⟨lane, lane', after, performed, hlane, hadv, rfl⟩ := worker?_cases h
  obtain ⟨hmem, rfl⟩ := mem_of_lane? hlane
  have hindex := Lane.index_of_advance? hadv
  have hindices : (m.lanes.map fun old => if old.stream.index = lane.stream.index then lane'
      else old).map (·.stream.index) = m.lanes.map (·.stream.index) :=
    map_replace fun old _ hi => hindex.trans hi.symm
  refine ⟨hindices ▸ hm.nodup, ?_, fun hw => ?_, fun hw => ⟨(hm.unasked hw).1, ?_⟩, fun hw => ?_⟩
  · exact forall_replace (fun _ _ _ => Lane.tidy_of_advance? hadv (hm.tidy lane hmem))
      fun old hold _ => hm.tidy old hold
  · exact forall_replace (fun _ _ _ => (Lane.working_of_advance? hadv (hm.free hw lane hmem)).1)
      fun old hold _ => hm.free hw old hold
  · refine forall_replace (fun _ _ _ hun => ?_) fun old hold _ => (hm.unasked hw).2 old hold
    obtain ⟨hwork, hr⟩ := (hm.unasked hw).2 lane hmem (hindex ▸ hun)
    obtain ⟨hwork', hr'⟩ := Lane.working_of_advance? hadv hwork
    exact ⟨hwork', hr'.trans hr⟩
  · refine forall_replace (fun _ _ _ hun => ?_) fun old hold _ => hm.asked hw old hold
    exact (Lane.asked_of_advance? hadv (hm.asked hw lane hmem (hindex ▸ hun))).1

/-- **A worker's move leaves the outcome as it is.** -/
theorem expected_of_worker? (hf : ops.Functional) (memory : σ) (d : Discipline) (hm : m.Sound)
    {s : StreamIndex} (h : m.worker? ops s = some m') :
    m'.expected ops memory d = m.expected ops memory d := by
  obtain ⟨lane, lane', after, performed, hlane, hadv, rfl⟩ := worker?_cases h
  obtain ⟨hmem, rfl⟩ := mem_of_lane? hlane
  -- of the lanes with this index there is one
  have hone : ∀ old ∈ m.lanes, old.stream.index = lane.stream.index → old = lane :=
    fun old hold hi => eq_of_index hm.nodup hold hmem hi
  refine expected_congr ops memory d rfl rfl ?_ fun stage hw => ?_
  · refine congrArg (Pool.mk _ _ · memory) (map_replace fun old hold hi => ?_)
    rw [hone old hold hi]
    exact Lane.settled_of_advance? memory hf hadv (hm.tidy lane hmem)
  · have hw' : m.waiting ≠ none := by simp [hw]
    have hr : lane.reply = none := by
      by_cases hun : lane.stream.index ∈ m.unasked
      · exact ((hm.unasked hw').2 lane hmem hun).2
      · exact (Lane.asked_of_advance? hadv (hm.asked hw' lane hmem hun)).2
    refine congrArg StepError.result (List.findSome?_eq_of_map (map_replace fun old hold hi => ?_))
    rw [hone old hold hi]
    exact Lane.forecast_of_advance? memory hf hadv (hm.tidy lane hmem) hr stage

/-! ## The issuing side's moves -/

/-- The machine once an operation has been sent, with its answer. -/
def posted (m : Machine σ α) (d : Discipline) (b : Binding α) (call : StageCall α) (op : Op α)
    (rest : List (Request α)) : Machine σ α :=
  { m with lanes := m.sending b op }.answered d rest (m.sent b call)

/-- The machine at the end of a stage, before any stream has been asked. -/
def halted (m : Machine σ α) (stage : Stage α) (rest : List (Request α)) : Machine σ α :=
  { m with
    waiting := some stage
    unasked := m.lanes.map (·.stream.index)
    pending := rest
    lanes := m.lanes.map fun lane => { lane with reply := none } }

/-- The machine once a stream has been asked, with others still to be. -/
def questioned (m : Machine σ α) (s : StreamIndex) (others : List StreamIndex) : Machine σ α :=
  { m with unasked := others, lanes := m.asking s }

omit [Scalar α] in
/-- **What a move of the issuing side does**: it sends an operation, comes to the end of a stage,
asks one stream for its error, or has all the answers. -/
theorem issuer?_cases (h : m.issuer? d = some m') :
    (∃ b call op rest, m.waiting = none ∧ m.pending = .submit b call op :: rest
        ∧ m' = m.posted d b call op rest)
      ∨ (∃ stage rest, m.waiting = none ∧ m.pending = .fence stage :: rest
        ∧ m' = m.halted stage rest)
      ∨ (∃ stage s others, m.waiting = some stage ∧ m.unasked = s :: others
        ∧ m' = m.questioned s others)
      ∨ ∃ stage answer, m.waiting = some stage ∧ m.unasked = [] ∧ m.collected? stage = some answer
        ∧ m' = m.answered d m.pending answer := by
  unfold issuer? at h
  split at h
  · cases h
  · next b call op rest hw hp =>
    exact .inl ⟨b, call, op, rest, hw, hp, (Option.some.inj h).symm⟩
  · next stage rest hw hp =>
    exact .inr (.inl ⟨stage, rest, hw, hp, (Option.some.inj h).symm⟩)
  · next stage s others hw hu =>
    exact .inr (.inr (.inl ⟨stage, s, others, hw, hu, (Option.some.inj h).symm⟩))
  · next stage hw hu =>
    obtain ⟨answer, hanswer, rfl⟩ := Option.map_eq_some_iff.mp h
    exact .inr (.inr (.inr ⟨stage, answer, hw, hu, hanswer, rfl⟩))

/-! ### The end of a stage -/

omit [Scalar α] in
theorem sound_halted (hm : m.Sound) (hw : m.waiting = none) (stage : Stage α)
    (rest : List (Request α)) : (m.halted stage rest).Sound := by
  have hindices : (m.halted stage rest).lanes.map (·.stream.index)
      = m.lanes.map (·.stream.index) := by
    rw [halted, List.map_map]
    rfl
  have hlane : ∀ lane ∈ (m.halted stage rest).lanes,
      lane.Tidy ∧ lane.Working ∧ lane.reply = none := by
    intro lane hmem
    obtain ⟨old, hold, rfl⟩ := List.mem_map.mp hmem
    exact ⟨hm.tidy old hold, hm.free hw old hold, rfl⟩
  refine ⟨hindices ▸ hm.nodup, fun lane hmem => (hlane lane hmem).1, (by simp [halted]),
    fun _ => ⟨hm.nodup, fun lane hmem _ => (hlane lane hmem).2⟩, fun _ lane hmem hun => ?_⟩
  have hin : lane.stream.index ∈ (m.halted stage rest).lanes.map (·.stream.index) :=
    List.mem_map_of_mem hmem
  rw [hindices] at hin
  exact absurd hin hun

/-- **At the end of a stage the lanes are going to answer as the streams would at once.** -/
theorem expected_halted (ops : Operators σ α) (memory : σ) (d : Discipline) (hm : m.Sound)
    (hw : m.waiting = none) {stage : Stage α} {rest : List (Request α)}
    (hp : m.pending = .fence stage :: rest) :
    (m.halted stage rest).expected ops memory d = m.expected ops memory d := by
  have hsettled : (m.halted stage rest).settled ops memory = m.settled ops memory := by
    rw [settled, halted, List.map_map]
    rfl
  have hforecast : (m.halted stage rest).forecast ops memory stage
      = ((m.settled ops memory).fence stage).1 := by
    rw [Pool.fence_fst, settled, List.findSome?_map, forecast, halted, List.findSome?_map]
    refine congrArg StepError.result (List.findSome?_congr fun lane hmem => ?_)
    have hwork : ({ lane with reply := none } : Lane α).Working := hm.free hw lane hmem
    exact Lane.forecast_of_working ops memory hwork rfl stage
  rw [expected_of_waiting ops memory d rfl, hsettled, hforecast, expected_of_free ops memory d hw,
    hp, Pool.serveAll_cons]
  rfl

/-! ### A stream asked -/

omit [Scalar α] in
@[simp] theorem stream_send (lane : Lane α) (message : Message α) :
    (lane.send message).stream = lane.stream := by
  unfold Lane.send
  split <;> rfl

omit [Scalar α] in
theorem sound_questioned (hm : m.Sound) {stage : Stage α} (hw : m.waiting = some stage)
    {s : StreamIndex} {others : List StreamIndex} (hu : m.unasked = s :: others) :
    (m.questioned s others).Sound := by
  have hw' : m.waiting ≠ none := by simp [hw]
  obtain ⟨hnodup, hunasked⟩ := hm.unasked hw'
  rw [hu, List.nodup_cons] at hnodup
  have hindices : (m.asking s).map (·.stream.index) = m.lanes.map (·.stream.index) :=
    map_replace fun lane _ _ => by simp only [stream_send]
  refine ⟨hindices ▸ hm.nodup, ?_, fun h => absurd h hw', fun _ => ⟨hnodup.2, ?_⟩, fun _ => ?_⟩
  · exact forall_replace (fun lane hmem _ => Lane.tidy_send (hm.tidy lane hmem) .fence)
      fun lane hmem _ => hm.tidy lane hmem
  · refine forall_replace (fun lane _ hi hmem => ?_) fun lane hmem hi hin => ?_
    · rw [stream_send, hi] at hmem
      exact absurd hmem hnodup.1
    · exact hunasked lane hmem (hu ▸ List.mem_cons_of_mem _ hin)
  · refine forall_replace (fun lane hmem hi _ => ?_) fun lane hmem hi hnot => ?_
    · obtain ⟨hwork, hr⟩ := hunasked lane hmem (by rw [hu, hi]; exact List.mem_cons_self)
      exact Lane.asked_send hwork hr
    · refine hm.asked hw' lane hmem fun hin => ?_
      rw [hu] at hin
      rcases List.mem_cons.mp hin with heq | hin
      · exact hi heq
      · exact hnot hin

/-- **Asking a stream for its error leaves the outcome as it is.** -/
theorem expected_questioned (ops : Operators σ α) (memory : σ) (d : Discipline) (hm : m.Sound)
    {stage : Stage α} (hw : m.waiting = some stage) (s : StreamIndex) (others : List StreamIndex) :
    (m.questioned s others).expected ops memory d = m.expected ops memory d := by
  have hforecast : (m.questioned s others).forecast ops memory stage
      = m.forecast ops memory stage :=
    congrArg StepError.result (List.findSome?_eq_of_map (map_replace fun lane _ _ =>
      Lane.forecast_send_fence ops memory stage lane))
  -- the question clears the error, as the end of the stage does
  have hsettled : (((m.questioned s others).settled ops memory).fence stage).2
      = ((m.settled ops memory).fence stage).2 := by
    rw [Pool.fence_snd, Pool.fence_snd]
    refine congrArg (Pool.mk _ _ · memory) ?_
    rw [settled, settled, List.map_map, List.map_map]
    refine map_replace fun lane hmem _ => ?_
    rw [Function.comp_apply, Lane.settled_send ops memory (hm.tidy lane hmem)]
    rfl
  have hwaiting : (m.questioned s others).waiting = some stage := hw
  rw [expected_of_waiting ops memory d hwaiting, expected_of_waiting ops memory d hw, hforecast,
    hsettled]
  rfl

/-! ### All streams have answered -/

omit [Scalar α] in
theorem pending_answered (m : Machine σ α) (d : Discipline) (rest : List (Request α))
    (answer : Except StepError Unit) :
    (m.answered d rest answer).pending = d.onward answer rest := by
  cases d <;> cases answer <;> rfl

omit [Scalar α] in
/-- An answer is collected once every lane has one. -/
theorem collected?_cases {stage : Stage α} {answer : Except StepError Unit}
    (h : m.collected? stage = some answer) :
    ∃ answers : List (Option StepError), m.lanes.map (·.answer? stage) = answers.map some
      ∧ answer = StepError.result (answers.findSome? id) := by
  unfold collected? at h
  simp only [Option.bind_eq_bind, Option.bind_eq_some_iff, Option.pure_def, Option.some.injEq] at h
  obtain ⟨answers, hanswers, rfl⟩ := h
  refine ⟨answers, List.map_eq_of_mapM hanswers, ?_⟩
  cases answers.findSome? id <;> rfl

omit [Scalar α] in
theorem answer?_of_collected? {stage : Stage α} {answer : Except StepError Unit}
    (h : m.collected? stage = some answer) :
    ∀ lane ∈ m.lanes, ∃ reply, lane.answer? stage = some reply := by
  intro lane hmem
  obtain ⟨answers, hmap, -⟩ := collected?_cases h
  obtain ⟨reply, -, hreply⟩ := List.mem_map.mp (hmap ▸ List.mem_map_of_mem hmem)
  exact ⟨reply, hreply.symm⟩

/-- The answer collected from the lanes is the one that was forecast. -/
theorem collected?_eq (ops : Operators σ α) (memory : σ) (hm : m.Sound) {stage : Stage α}
    {answer : Except StepError Unit} (h : m.collected? stage = some answer) :
    answer = m.forecast ops memory stage := by
  obtain ⟨answers, hmap, rfl⟩ := collected?_cases h
  have hforecast : m.lanes.map (·.forecast ops memory stage) = answers := by
    refine List.map_injective_iff.mpr (fun _ _ => Option.some.inj) ?_
    rw [← hmap, List.map_map]
    refine List.map_congr_left fun lane hmem => ?_
    obtain ⟨reply, hr⟩ := answer?_of_collected? h lane hmem
    rw [Function.comp_apply, hr, Lane.forecast_of_answer? ops memory (hm.tidy lane hmem) hr]
  rw [forecast, ← hforecast, List.findSome?_map]
  rfl

omit [Scalar α] in
theorem sound_collected (hm : m.Sound) {stage : Stage α} (hw : m.waiting = some stage)
    (hu : m.unasked = []) (h : ∀ lane ∈ m.lanes, ∃ reply, lane.answer? stage = some reply)
    (answer : Except StepError Unit) : (m.answered d m.pending answer).Sound := by
  refine ⟨hm.nodup, hm.tidy, fun _ lane hmem message hmessage => ?_, fun hw' => absurd rfl hw',
    fun hw' => absurd rfl hw'⟩
  obtain ⟨reply, hreply⟩ := h lane hmem
  have hasked := hm.asked (by simp [hw]) lane hmem (by simp [hu])
  have hqueue := (Lane.quiet_of_answer? (hm.tidy lane hmem) hasked hreply).1
  rw [hqueue] at hmessage
  exact absurd hmessage List.not_mem_nil

/-- **Once all streams have answered, their answer is the next that was expected.** -/
theorem expected_collected (ops : Operators σ α) (memory : σ) (d : Discipline) (hm : m.Sound)
    {stage : Stage α} (hw : m.waiting = some stage) (hu : m.unasked = [])
    {answer : Except StepError Unit} (h : m.collected? stage = some answer) :
    m.expected ops memory d
      = (answer :: ((m.answered d m.pending answer).expected ops memory d).1,
        ((m.answered d m.pending answer).expected ops memory d).2) := by
  have hreply := answer?_of_collected? h
  obtain rfl := collected?_eq ops memory hm h
  have hsettled : ((m.settled ops memory).fence stage).2
      = (m.answered d m.pending (m.forecast ops memory stage)).settled ops memory := by
    rw [Pool.fence_snd]
    refine congrArg (Pool.mk _ _ · memory) ?_
    rw [settled, List.map_map]
    refine List.map_congr_left fun lane hmem => ?_
    obtain ⟨reply, hr⟩ := hreply lane hmem
    have hasked := hm.asked (by simp [hw]) lane hmem (by simp [hu])
    obtain ⟨hqueue, hfailed⟩ := Lane.quiet_of_answer? (hm.tidy lane hmem) hasked hr
    have hst : lane.settled ops memory = lane.stream := by
      rw [Lane.settled, hqueue]
      rfl
    rw [Function.comp_apply, hst]
    exact Stream.cleared_of_failed hfailed
  rw [expected_of_waiting ops memory d hw, hsettled, expected_of_free ops memory d rfl,
    pending_answered]

/-! ### An operation sent -/

omit [Scalar α] in
theorem sound_posted (hm : m.Sound) (hw : m.waiting = none) (b : Binding α) (call : StageCall α)
    (op : Op α) (rest : List (Request α)) : (m.posted d b call op rest).Sound := by
  have hindices : (m.sending b op).map (·.stream.index) = m.lanes.map (·.stream.index) :=
    map_replace fun lane _ _ => by simp only [stream_send]; rfl
  have htidy : ∀ lane ∈ m.lanes, (lane.note b.descriptor.id).Tidy := fun lane hmem =>
    hm.tidy lane hmem
  have hwork : ∀ lane ∈ m.lanes, (lane.note b.descriptor.id).Working := fun lane hmem =>
    hm.free hw lane hmem
  refine ⟨hindices ▸ hm.nodup, ?_, fun _ => ?_, fun hw' => absurd rfl hw',
    fun hw' => absurd rfl hw'⟩
  · exact forall_replace (fun lane hmem _ => Lane.tidy_send (htidy lane hmem) _)
      fun lane hmem _ => hm.tidy lane hmem
  · exact forall_replace (fun lane hmem _ => Lane.working_send (hwork lane hmem) trivial)
      fun lane hmem _ => hm.free hw lane hmem

theorem indices_settled (ops : Operators σ α) (memory : σ) (m : Machine σ α) :
    (m.settled ops memory).indices = m.lanes.map (·.stream.index) := by
  rw [Pool.indices, settled, List.map_map]
  exact List.map_congr_left fun lane _ => Lane.index_settled ops memory lane

/-- The queues worked off after an operation was sent, and the operation issued after they were
worked off. -/
theorem settled_posted (ops : Operators σ α) (memory : σ) (d : Discipline) (hm : m.Sound)
    (b : Binding α) (call : StageCall α) (op : Op α) (rest : List (Request α)) :
    ((m.posted d b call op rest).settled ops memory).Alike
      ((m.settled ops memory).absorb ops b op) := by
  refine ⟨by rw [Pool.absorb, Pool.bindings_onStream]; rfl, ?_⟩
  have hn : (m.settled ops memory).indices.Nodup := by
    rw [indices_settled]
    exact hm.nodup
  rw [Pool.streams_absorb ops hn]
  simp only [settled, posted, answered, sending, List.map_map]
  refine List.map_congr_left fun lane hmem => ?_
  rw [Function.comp_apply, Function.comp_apply, Lane.index_settled]
  by_cases hi : lane.stream.index = b.stream
  · have htidy : (lane.note b.descriptor.id).Tidy := hm.tidy lane hmem
    rw [if_pos hi, if_pos hi]
    refine (Lane.settled_send ops memory htidy (.work b.slot op)).trans ?_
    rw [Lane.settled_note]
    rfl
  · rw [if_neg hi, if_neg hi]

theorem stream?_settled (ops : Operators σ α) (memory : σ) (m : Machine σ α) (s : StreamIndex) :
    (m.settled ops memory).stream? s
      = (m.lanes.find? (·.stream.index = s)).map (·.settled ops memory) := by
  rw [Pool.stream?, settled, List.find?_map]
  simp only [Function.comp_def, Lane.index_settled]

/-- **Where no stream is lost, an operation is taken by a queue exactly if it would be carried
out.** -/
theorem sent_eq (ops : Operators σ α) (memory : σ) (hm : m.Sound)
    (hl : ∀ s, (m.settled ops memory).statusOf s ≠ .crashed) (b : Binding α) (call : StageCall α)
    (op : Op α) : m.sent b call = ((m.settled ops memory).serve ops (.submit b call op)).1 := by
  have hst := stream?_settled ops memory m b.stream
  rw [Pool.serve_submit, sent]
  cases hlane : m.lanes.find? (·.stream.index = b.stream) with
  | none =>
    rw [hlane, Option.map_none] at hst
    simp only [Pool.submit, hst]
    rfl
  | some lane =>
    rw [hlane, Option.map_some] at hst
    have hkept : (lane.settled ops memory).worker.lost = false := by
      refine Bool.eq_false_iff.mpr fun h => hl b.stream ?_
      rw [Pool.statusOf, hst]
      exact Worker.status_eq_crashed.mpr h
    have hlane' : lane.stream.worker.lost = false := by
      refine Bool.eq_false_iff.mpr fun h => ?_
      rw [Lane.settled_of_lost ops memory (hm.tidy lane (mem_of_lane? hlane).1) h, h] at hkept
      cases hkept
    rw [Pool.submit_fst ops _ b call op hst, hkept]
    simp only [hlane', Bool.false_eq_true, if_false]
    rfl

/-- **An operation sent to its queue is carried out there as it would be at once.** -/
theorem expected_posted (hf : ops.Functional) (memory : σ) (hm : m.Sound) (hw : m.waiting = none)
    {b : Binding α} {call : StageCall α} {op : Op α} {rest : List (Request α)}
    (hp : m.pending = .submit b call op :: rest)
    (h : d = .goOn ∨ m.sent b call = ((m.settled ops memory).serve ops (.submit b call op)).1) :
    (m.expected ops memory d).1
        = ((m.settled ops memory).serve ops (.submit b call op)).1 ::
          ((m.posted d b call op rest).expected ops memory d).1
      ∧ (m.expected ops memory d).2.Alike
          ((m.posted d b call op rest).expected ops memory d).2 := by
  have honward : (m.posted d b call op rest).pending
      = d.onward ((m.settled ops memory).serve ops (.submit b call op)).1 rest := by
    rw [posted, pending_answered]
    rcases h with rfl | h
    · rfl
    · rw [h]
  have halike : ((m.settled ops memory).serve ops (.submit b call op)).2.Alike
      ((m.posted d b call op rest).settled ops memory) := by
    rw [Pool.serve_submit]
    exact (settled_posted ops memory d hm b call op rest).symm
  obtain ⟨hanswers, hpool⟩ :=
    Pool.serveAll_alike d hf (m.posted d b call op rest).pending halike
  have hfree : (m.posted d b call op rest).waiting = none := rfl
  rw [expected_of_free ops memory d hw, hp, Pool.serveAll_cons, ← honward,
    expected_of_free ops memory d hfree]
  exact ⟨by rw [hanswers], hpool⟩

theorem sound_of_move? (hm : m.Sound) {actor : Actor} (h : m.move? ops d actor = some m') :
    m'.Sound := by
  cases actor with
  | worker s => exact sound_of_worker? hm h
  | issuer =>
    rcases issuer?_cases h with ⟨b, call, op, rest, hw, -, rfl⟩ | ⟨stage, rest, hw, -, rfl⟩ |
      ⟨stage, s, others, hw, hu, rfl⟩ | ⟨stage, answer, hw, hu, hc, rfl⟩
    · exact sound_posted hm hw b call op rest
    · exact sound_halted hm hw stage rest
    · exact sound_questioned hm hw hu
    · exact sound_collected hm hw hu (answer?_of_collected? hc) answer

/-! ## What a move does to the outcome -/

/-- **What a move does to the outcome.**  It leaves it as it is, or gives the next answer.  That is
the answer which was expected, unless an operation was sent to a stream that is about to be lost;
and if the issuing side does not stop at errors, or the answer is as expected, all that follows is
as it was. -/
theorem move?_cases (hf : ops.Functional) (memory : σ) (hm : m.Sound) {actor : Actor}
    (h : m.move? ops d actor = some m') :
    (m'.results = m.results ∧ m'.outstanding = m.outstanding
        ∧ m'.expected ops memory d = m.expected ops memory d)
      ∨ ∃ request rest answer given, m.outstanding = request :: rest
        ∧ m'.outstanding = d.onward given rest ∧ m'.results = m.results ++ [given]
        ∧ ((∃ stage, request = .fence stage)
            ∨ (∀ s, (m.expected ops memory d).2.statusOf s ≠ .crashed) → given = answer)
        ∧ (d = .goOn ∨ given = answer →
            (m.expected ops memory d).1 = answer :: (m'.expected ops memory d).1
              ∧ (m.expected ops memory d).2.Alike (m'.expected ops memory d).2) := by
  cases actor with
  | worker s =>
    have hres : m'.results = m.results ∧ m'.outstanding = m.outstanding := by
      obtain ⟨_, _, _, _, -, -, rfl⟩ := worker?_cases h
      exact ⟨rfl, rfl⟩
    exact .inl ⟨hres.1, hres.2, expected_of_worker? hf memory d hm h⟩
  | issuer =>
    rcases issuer?_cases h with ⟨b, call, op, rest, hw, hp, rfl⟩ | ⟨stage, rest, hw, hp, rfl⟩ |
      ⟨stage, s, others, hw, hu, rfl⟩ | ⟨stage, answer, hw, hu, hc, rfl⟩
    · refine .inr ⟨.submit b call op, rest,
        ((m.settled ops memory).serve ops (.submit b call op)).1, m.sent b call, ?_, ?_, rfl,
        fun hlost => ?_, expected_posted hf memory hm hw hp⟩
      · rw [outstanding, hw, hp]
        rfl
      · rw [outstanding, posted, pending_answered]
        rfl
      · rcases hlost with ⟨stage, hstage⟩ | hkept
        · cases hstage
        · refine sent_eq ops memory hm (fun s hs => hkept s ?_) b call op
          rw [expected_of_free ops memory d hw]
          exact Pool.statusOf_serveAll_crashed ops d m.pending hs
    · refine .inl ⟨rfl, ?_, expected_halted ops memory d hm hw hp⟩
      rw [outstanding, outstanding, hw, hp]
      rfl
    · exact .inl ⟨rfl, rfl, expected_questioned ops memory d hm hw s others⟩
    · have hexp := expected_collected ops memory d hm hw hu hc
      refine .inr ⟨.fence stage, m.pending, answer, answer, ?_, ?_, rfl, fun _ => rfl, fun _ => ?_⟩
      · rw [outstanding, hw]
        rfl
      · rw [outstanding, pending_answered]
        rfl
      · rw [hexp]
        exact ⟨rfl, .refl _⟩

/-! ## Every run can be brought to its end -/

omit [Scalar α] in
theorem lane?_of_mem (hm : m.Sound) {lane : Lane α} (hmem : lane ∈ m.lanes) :
    m.lanes.find? (·.stream.index = lane.stream.index) = some lane := by
  obtain ⟨lane', hlane⟩ : ∃ lane',
      m.lanes.find? (·.stream.index = lane.stream.index) = some lane' :=
    Option.isSome_iff_exists.mp (List.find?_isSome.mpr ⟨lane, hmem, by simp⟩)
  obtain ⟨hmem', hindex⟩ := mem_of_lane? hlane
  rw [hlane, eq_of_index hm.nodup hmem' hmem hindex]

/-- A worker that is there and has something in its queue can move. -/
theorem exists_worker? (ops : Operators σ α) (hm : m.Sound) {lane : Lane α} (hmem : lane ∈ m.lanes)
    (hl : lane.stream.worker.lost = false) (hq : lane.queue ≠ []) :
    ∃ m', m.worker? ops lane.stream.index = some m' := by
  obtain ⟨next, hadvance⟩ : ∃ next, lane.advance? ops m.memory = some next := by
    obtain ⟨message, queue, hqueue⟩ := List.exists_cons_of_ne_nil hq
    unfold Lane.advance?
    simp only [hl, Bool.false_eq_true, if_false, hqueue]
    cases message with
    | work slot op => exact ⟨_, rfl⟩
    | fence => exact ⟨_, rfl⟩
  unfold worker?
  rw [lane?_of_mem hm hmem, Option.bind_eq_bind, Option.bind_some, hadvance]
  exact ⟨_, rfl⟩

omit [Scalar α] in
theorem exists_collected? {stage : Stage α}
    (h : ∀ lane ∈ m.lanes, ∃ reply, lane.answer? stage = some reply) :
    ∃ answer, m.collected? stage = some answer := by
  have hmapM : ∀ lanes : List (Lane α), (∀ lane ∈ lanes, ∃ reply, lane.answer? stage = some reply) →
      ∃ answers, lanes.mapM (·.answer? stage) = some answers := by
    intro lanes
    induction lanes with
    | nil => exact fun _ => ⟨[], by simp⟩
    | cons lane lanes ih =>
      intro h
      obtain ⟨reply, hreply⟩ := h lane List.mem_cons_self
      obtain ⟨answers, hanswers⟩ := ih fun lane hmem => h lane (List.mem_cons_of_mem _ hmem)
      exact ⟨reply :: answers, by simp [List.mapM_cons, hreply, hanswers]⟩
  obtain ⟨answers, hanswers⟩ := hmapM m.lanes h
  unfold collected?
  rw [hanswers]
  exact ⟨_, rfl⟩

/-- **Nobody waits for ever**: a machine that is not at its end has a move. -/
theorem exists_move? (ops : Operators σ α) (d : Discipline) (hm : m.Sound)
    (h : m.isFinished = false) : ∃ actor m', m.move? ops d actor = some m' := by
  cases hw : m.waiting with
  | none =>
    cases hp : m.pending with
    | cons request rest =>
      refine ⟨.issuer, ?_⟩
      simp only [move?, issuer?, hw, hp]
      cases request <;> exact ⟨_, rfl⟩
    | nil =>
      -- something is left in a queue
      obtain ⟨lane, hmem, hidle⟩ : ∃ lane ∈ m.lanes, lane.isIdle = false := by
        simpa [isFinished, hw, hp] using h
      have hq : lane.queue ≠ [] := by simpa [Lane.isIdle] using hidle
      have hl : lane.stream.worker.lost = false :=
        Bool.eq_false_iff.mpr fun hl => hq ((hm.tidy lane hmem).2 hl)
      exact ⟨.worker lane.stream.index, exists_worker? ops hm hmem hl hq⟩
  | some stage =>
    cases hu : m.unasked with
    | cons s others =>
      refine ⟨.issuer, ?_⟩
      simp only [move?, issuer?, hw, hu]
      exact ⟨_, rfl⟩
    | nil =>
      by_cases hall : ∃ lane ∈ m.lanes, lane.answer? stage = none
      · -- a lane that has not answered still has the question in its queue
        obtain ⟨lane, hmem, hnone⟩ := hall
        have hasked := hm.asked (by simp [hw]) lane hmem (by simp [hu])
        obtain ⟨hl, hq⟩ := Lane.queue_ne_nil_of_answer? hasked hnone
        exact ⟨.worker lane.stream.index, exists_worker? ops hm hmem hl hq⟩
      · have hreply : ∀ lane ∈ m.lanes, ∃ reply, lane.answer? stage = some reply := fun lane hmem =>
          Option.ne_none_iff_exists'.mp fun hnone => hall ⟨lane, hmem, hnone⟩
        obtain ⟨answer, hanswer⟩ := exists_collected? hreply
        refine ⟨.issuer, ?_⟩
        simp only [move?, issuer?, hw, hu, hanswer]
        exact ⟨_, rfl⟩

/-! ### The work that is left -/

/-- **A bound on the moves to the end**: those of the requests not yet made, the questions not yet
asked, and the messages in the queues. -/
def effort (m : Machine σ α) : Nat :=
  (m.pending.map (Request.effort m.lanes.length)).sum + m.waiting.toList.length
    + (m.lanes.length + 1) * m.unasked.length + (m.lanes.map (·.queue.length)).sum

omit [Scalar α] in
theorem length_send_le (lane : Lane α) (message : Message α) :
    (lane.send message).queue.length ≤ lane.queue.length + 1 := by
  unfold Lane.send
  split <;> simp

omit [Scalar α] in
/-- A message to some of the lanes adds at most one to each queue. -/
theorem sum_queue_replace_le {lanes : List (Lane α)} {s : StreamIndex} {change : Lane α → Lane α}
    (h : ∀ lane ∈ lanes, (change lane).queue.length ≤ lane.queue.length + 1) :
    ((lanes.map fun lane => if lane.stream.index = s then change lane else lane).map
        (·.queue.length)).sum ≤ (lanes.map (·.queue.length)).sum + lanes.length := by
  have hle : ((lanes.map fun lane => if lane.stream.index = s then change lane else lane).map
      (·.queue.length)).sum ≤ (lanes.map fun lane => lane.queue.length + 1).sum := by
    rw [List.map_map]
    refine List.sum_le_sum fun lane hmem => ?_
    rw [Function.comp_apply]
    split
    · exact h lane hmem
    · exact Nat.le_succ _
  refine hle.trans (Nat.le_of_eq ?_)
  rw [List.sum_map_add]
  simp

omit [Scalar α] in
theorem effort_onward_le (d : Discipline) (answer : Except StepError Unit) (rest : List (Request α))
    (lanes : Nat) :
    ((d.onward answer rest).map (Request.effort lanes)).sum
      ≤ (rest.map (Request.effort lanes)).sum := by
  unfold Discipline.onward
  split
  · exact Nat.zero_le _
  · exact Nat.le_refl _

omit [Scalar α] in
/-- A lane with a shorter queue in place of the one of its stream leaves less in the queues. -/
theorem sum_queue_replace_lt (hm : m.Sound) {lane lane' : Lane α} (hmem : lane ∈ m.lanes)
    (hlt : lane'.queue.length < lane.queue.length) :
    ((m.lanes.map fun old => if old.stream.index = lane.stream.index then lane' else old).map
        (·.queue.length)).sum < (m.lanes.map (·.queue.length)).sum := by
  rw [List.map_map]
  refine List.sum_lt_sum _ _ (fun old hold => ?_) ⟨lane, hmem, ?_⟩
  · rw [Function.comp_apply]
    split
    · next hi => exact eq_of_index hm.nodup hold hmem hi ▸ Nat.le_of_lt hlt
    · exact Nat.le_refl _
  · rw [Function.comp_apply, if_pos rfl]
    exact hlt

/-- A worker that moves takes a message from its queue. -/
theorem effort_lt_of_worker? (hm : m.Sound) {s : StreamIndex} (h : m.worker? ops s = some m') :
    m'.effort < m.effort := by
  obtain ⟨lane, lane', after, performed, hlane, hadv, rfl⟩ := worker?_cases h
  obtain ⟨hmem, rfl⟩ := mem_of_lane? hlane
  obtain ⟨-, message, queue, hqueue, -, hcases⟩ := Lane.advance?_cases ops hadv
  have hlt : lane'.queue.length < lane.queue.length := by
    rw [hqueue]
    rcases hcases with ⟨-, hq, -⟩ | ⟨-, -, hq⟩
    · simp [hq]
    · rw [hq]
      split <;> simp
  have hsum := sum_queue_replace_lt hm hmem hlt
  simp only [effort, List.length_map]
  omega

omit [Scalar α] in
/-- The issuing side pays for every message it sends with a request or a question. -/
theorem effort_lt_of_issuer? (h : m.issuer? d = some m') : m'.effort < m.effort := by
  rcases issuer?_cases h with ⟨b, call, op, rest, hw, hp, rfl⟩ | ⟨stage, rest, hw, hp, rfl⟩ |
    ⟨stage, s, others, hw, hu, rfl⟩ | ⟨stage, answer, hw, hu, hc, rfl⟩
  · have hsum : ((m.sending b op).map (·.queue.length)).sum
        ≤ (m.lanes.map (·.queue.length)).sum + m.lanes.length :=
      sum_queue_replace_le fun lane _ => length_send_le (lane.note b.descriptor.id) _
    have hrest := effort_onward_le d (m.sent b call) rest m.lanes.length
    have hlen : (m.sending b op).length = m.lanes.length := List.length_map ..
    simp only [effort, hp, hw, posted, pending_answered, List.map_cons, List.sum_cons,
      Request.effort]
    simp only [answered, hlen]
    simp only [Option.toList_none, List.length_nil]
    omega
  · simp only [effort, hp, hw, halted, List.map_cons, List.sum_cons, Request.effort,
      List.length_map, List.map_map, Function.comp_def, Option.toList_none, Option.toList_some,
      List.length_nil, List.length_singleton]
    omega
  · have hsum : ((m.asking s).map (·.queue.length)).sum
        ≤ (m.lanes.map (·.queue.length)).sum + m.lanes.length :=
      sum_queue_replace_le fun lane _ => length_send_le lane _
    have hlen : (m.asking s).length = m.lanes.length := List.length_map ..
    simp only [effort, hu, questioned, hlen, List.length_cons, Nat.mul_succ]
    omega
  · have hrest := effort_onward_le d answer m.pending m.lanes.length
    simp only [effort, hw, pending_answered]
    simp only [answered, Option.toList_none, Option.toList_some, List.length_nil,
      List.length_singleton]
    omega

/-- **Every move leaves less to do.** -/
theorem effort_lt_of_move? (hm : m.Sound) {actor : Actor} (h : m.move? ops d actor = some m') :
    m'.effort < m.effort := by
  cases actor with
  | worker s => exact effort_lt_of_worker? hm h
  | issuer => exact effort_lt_of_issuer? h

/-- **Every run can be brought to its end.** -/
theorem exists_isFinished (ops : Operators σ α) (d : Discipline) (hm : m.Sound) :
    ∃ schedule, (m.run ops d schedule).isFinished = true := by
  induction h : m.effort using Nat.strongRecOn generalizing m with
  | ind n ih =>
    cases hfin : m.isFinished with
    | true => exact ⟨[], hfin⟩
    | false =>
      obtain ⟨actor, m', hmove⟩ := exists_move? ops d hm hfin
      obtain ⟨schedule, hdone⟩ :=
        ih m'.effort (h ▸ effort_lt_of_move? hm hmove) (sound_of_move? hm hmove) rfl
      refine ⟨actor :: schedule, ?_⟩
      rwa [run, List.foldl_cons, hmove, Option.getD_some]

end Moves

end Machine

end MethodOfLines
