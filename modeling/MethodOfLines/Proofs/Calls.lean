import MethodOfLines.Proofs.Logged
import MethodOfLines.Proofs.Remains

/-!
# Proofs/Calls — the calls of a step, and the barrier between its stages

While work of a stage waits in a queue, nothing of a later stage waits in any queue or has been
carried out (`Machine.Abreast`), so the calls of a step are ordered by their stages.

`Stepper.callsAt` is what a stage calls for a grid, and `Stepper.callsOn` what a step calls on a
stream, in the order of issue.  What is called on a stream is always a beginning of that, and in a
step that succeeds all of it (`Stepper.calls_of_stepUnder`).
-/

namespace MethodOfLines

variable {σ α : Type}

/-! ## The barrier -/

/-- The first operation does not belong to a later stage than the second. -/
def Op.Precedes (op op' : Op α) : Prop :=
  ∀ i j, op.number? = some i → op'.number? = some j → i ≤ j

/-- In a chain without fences all requests belong to one stage. -/
theorem Request.number_eq_of_free {l : List (Request α)} (hc : l.IsChain Next)
    (hfree : ∀ stage, .fence stage ∉ l) {r r' : Request α} (hr : r ∈ l) (hr' : r' ∈ l) :
    r.number = r'.number := by
  obtain rfl | ⟨init, last, rfl⟩ := l.eq_nil_or_concat'
  · exact absurd hr List.not_mem_nil
  · have hinit := number_of_mem_chain hc fun stage h => hfree stage (List.mem_append_left _ h)
    have hall : ∀ x ∈ init ++ [last], x.number = last.number := by
      intro x hx
      rcases List.mem_append.mp hx with hx | hx
      · exact hinit x hx
      · rw [List.mem_singleton.mp hx]
    rw [hall r hr, hall r' hr']

/-- A worker that was sent nothing since a fence has had no turn since. -/
theorem Lane.Recalls.turns_eq_nil [Scalar α] {ops : Operators σ α} {origin : Worker α}
    {before : List (Nat × Op α)} {past turns : List (Turn σ α)} {lane : Lane α}
    (h : lane.Recalls ops origin before [] past turns) : turns = [] := by
  have hnil := List.prefix_nil.mp h.begun
  exact List.map_eq_nil_iff.mp (List.append_eq_nil_iff.mp hnil).1

namespace Machine

/-- **The streams are abreast**: while work of a stage waits in a queue, no work of a later stage
has been carried out or waits in a queue. -/
def Abreast (m : Machine σ α) : Prop :=
  ∀ lane ∈ m.lanes, ∀ x ∈ lane.work, ∀ y,
    (y ∈ m.performed ∨ ∃ lane' ∈ m.lanes, y ∈ lane'.work) → y.2.Precedes x.2

variable [Scalar α] {ops : Operators σ α} {origin : StreamIndex → Worker α}
  {home : Nat → StreamIndex} {requests before current : List (Request α)} {m m' : Machine σ α}

/-- What has been asked for does not belong to a later stage than what is current. -/
theorem Follows.number_le (ho : Request.Orderly home requests)
    (h : m.Follows ops origin home requests before current) {r r' : Request α}
    (hr : r ∈ before ++ current) (hr' : r' ∈ current) : r.number ≤ r'.number := by
  have hchain : (before ++ current).IsChain Request.Next := by
    obtain ⟨rest, hrest⟩ := h.answers.isPrefix
    exact (hrest.symm ▸ ho.chain).left_of_append
  rcases List.mem_append.mp hr with hr | hr
  · exact (List.pairwise_append.mp (Request.number_le_of_chain hchain)).2.2 r hr r' hr'
  · exact (Request.number_eq_of_free hchain.right_of_append h.free hr hr').le

/-- **At every moment the streams are abreast.** -/
theorem Follows.abreast (ho : Request.Orderly home requests)
    (h : m.Follows ops origin home requests before current) : m.Abreast := by
  have hwork : ∀ lane ∈ m.lanes, ∀ x ∈ lane.work, ∃ t, x ∈ Request.workFor t current := by
    intro lane hmem x hx
    obtain ⟨past, turns, hrec, -⟩ := h.lanes lane hmem
    exact ⟨_, hrec.begun.subset (List.mem_append_right _ hx)⟩
  intro lane hmem x hx y hy i j hi hj
  obtain ⟨t, hx⟩ := hwork lane hmem x hx
  obtain ⟨b, call, hsubmit, -, -⟩ := Request.mem_workFor.mp hx
  obtain ⟨t', hy⟩ : ∃ t', y ∈ Request.workFor t' (before ++ current) := by
    rcases hy with hy | ⟨lane', hmem', hy⟩
    · exact h.performed y hy
    · obtain ⟨t', hy⟩ := hwork lane' hmem' y hy
      exact ⟨t', by rw [Request.workFor_append]; exact List.mem_append_right _ hy⟩
  obtain ⟨b', call', hsubmit', -, -⟩ := Request.mem_workFor.mp hy
  rw [ho.number (h.answers.isPrefix.subset hsubmit') hi,
    ho.number (h.answers.isPrefix.subset (List.mem_append_right _ hsubmit)) hj]
  exact h.number_le ho hsubmit' hsubmit

/-- What was carried out belongs to a stream of the pool. -/
theorem Follows.exists_stream (ho : Request.Orderly home requests)
    (h : m.Follows ops origin home requests before current) {x : Nat × Op α}
    (hx : x ∈ m.performed) : home x.1 ∈ m.lanes.map (·.stream.index) := by
  obtain ⟨t, hx⟩ := h.performed x hx
  obtain ⟨b, call, hsubmit, -, hslot⟩ := Request.mem_workFor.mp hx
  have hmem := h.answers.isPrefix.subset hsubmit
  rw [← hslot, ho.home hmem]
  exact h.bound hmem

/-- **What was carried out on a stream is a beginning of what was asked of it.** -/
theorem Follows.filter_performed_isPrefix (ho : Request.Orderly home requests)
    (h : m.Follows ops origin home requests before current) (t : StreamIndex) :
    m.performed.filter (fun x => home x.1 = t) <+: Request.workFor t (before ++ current) := by
  by_cases ht : t ∈ m.lanes.map (·.stream.index)
  · obtain ⟨lane, hmem, rfl⟩ := List.mem_map.mp ht
    obtain ⟨past, turns, hrec, hperf⟩ := h.lanes lane hmem
    rw [hperf, Request.workFor_append]
    exact (Worker.carried_isPrefix ..).trans hrec.isPrefix
  · rw [List.filter_eq_nil_iff.mpr fun x hx he => ht ?_]
    · exact List.nil_prefix
    · rw [← of_decide_eq_true he]
      exact h.exists_stream ho hx

/-- **When a fence has just passed, everything asked of a stream has been carried out.** -/
theorem Follows.filter_performed_eq (ho : Request.Orderly home requests)
    (h : m.Follows ops origin home requests before []) (t : StreamIndex) :
    m.performed.filter (fun x => home x.1 = t) = Request.workFor t before := by
  by_cases ht : t ∈ m.lanes.map (·.stream.index)
  · obtain ⟨lane, hmem, rfl⟩ := List.mem_map.mp ht
    obtain ⟨past, turns, hrec, hperf⟩ := h.lanes lane hmem
    obtain rfl : turns = [] := hrec.turns_eq_nil
    rw [hperf, List.append_nil, Worker.carried_eq _ _ hrec.clean, hrec.elapsed]
  · have hnone : Request.workFor t before = [] := by
      refine List.eq_nil_iff_forall_not_mem.mpr fun x hx => ht ?_
      obtain ⟨b, call, hsubmit, rfl, -⟩ := Request.mem_workFor.mp hx
      exact h.bound (h.answers.isPrefix.subset (List.mem_append_left _ hsubmit))
    have hprefix := h.filter_performed_isPrefix ho t
    rw [List.append_nil, hnone] at hprefix
    rw [hnone, List.prefix_nil.mp hprefix]

/-- **When a fence has just passed, nothing is wrong with any worker**, and none has answered with
an error. -/
theorem Follows.status_of_passed (h : m.Follows ops origin home requests before []) :
    ∀ lane ∈ m.lanes, lane.stream.worker.status = .done ∧ lane.reply.join = none := by
  intro lane hmem
  obtain ⟨past, turns, hrec, -⟩ := h.lanes lane hmem
  obtain rfl : turns = [] := hrec.turns_eq_nil
  have hj : lane.reply.join = none := by
    rcases hrec.worker with ⟨-, hj⟩ | ⟨-, hr, -⟩
    · exact hj
    · rw [hr, List.append_nil, (Worker.status_eq_done.mp hrec.clean).2]
      rfl
  obtain ⟨hworker, -⟩ := hrec.worker_eq (.inr hj)
  rw [hworker, List.append_nil]
  exact ⟨hrec.clean, hj⟩

/-- What a move carries out comes after what was carried out before. -/
theorem pairwise_of_move? (h : m.Abreast) (hp : m.performed.Pairwise (·.2.Precedes ·.2))
    {actor : Actor} (hmove : m.move? ops .stop actor = some m') :
    m'.performed.Pairwise (·.2.Precedes ·.2) := by
  cases actor with
  | issuer =>
    rcases issuer?_cases hmove with ⟨b, call, op, rest, -, -, rfl⟩ | ⟨stage, rest, -, -, rfl⟩ |
      ⟨stage, s, others, -, -, rfl⟩ | ⟨stage, answer, -, -, -, rfl⟩ <;> exact hp
  | worker t =>
    obtain ⟨lane, lane', after, performed, hlane, hadv, rfl⟩ := worker?_cases hmove
    obtain ⟨hmem, -⟩ := mem_of_lane? hlane
    refine List.pairwise_append.mpr ⟨hp, ?_, fun y hy x hx => ?_⟩
    · cases performed <;> simp
    · exact h lane hmem x (Lane.mem_work_of_advance? hadv (Option.mem_toList.mp hx)) y (.inl hy)

/-- **Stages are carried out one after the other**, under every schedule. -/
theorem Follows.pairwise_run (ho : Request.Orderly home requests)
    (h : m.Follows ops origin home requests before current)
    (hp : m.performed.Pairwise (·.2.Precedes ·.2)) (schedule : Schedule) :
    (m.run ops .stop schedule).performed.Pairwise (·.2.Precedes ·.2) :=
  (run_invariant (I := fun m => (∃ before current,
      m.Follows ops origin home requests before current)
        ∧ m.performed.Pairwise (·.2.Precedes ·.2))
    (fun ⟨⟨_, _, h⟩, hp⟩ hmove =>
      ⟨follows_of_move? ho h hmove, pairwise_of_move? (h.abreast ho) hp hmove⟩)
    ⟨⟨before, current, h⟩, hp⟩ schedule).2

end Machine

/-! ## The calls that are due -/

namespace Op

variable {stage : Stage α} (call : StageCall α) (stream : StreamIndex) (g : Grid α)

@[simp] theorem calls_sync (d : Descriptor α) : (sync d).calls stream g = [] := rfl

@[simp] theorem calls_rates :
    (rates stage call).calls stream g = [⟨.rhs, context stream call g⟩] :=
  if_neg stage.rhsInput_ne_rhsOutput

@[simp] theorem calls_radiation :
    (radiation stage call).calls stream g = [⟨.radiation, context stream call g⟩] :=
  if_neg stage.rhsInput_ne_rhsOutput

@[simp] theorem calls_kernel (work : Launch) : (kernel stage call work).calls stream g = [] := rfl

@[simp] theorem calls_boundary :
    (boundary stage call).calls stream g = [⟨.apply, context stream call g⟩] := rfl

end Op

/-- **The calls of a row**, in order. -/
theorem Binding.flatMap_calls_row (b : Binding α) (blockSize : Nat)
    (policy : Descriptor α → BoundaryPolicy) (stage : Stage α) (call : StageCall α) (g : Grid α) :
    (b.row blockSize policy stage call).flatMap (·.calls b.stream g)
      = ⟨.rhs, Op.context b.stream call g⟩ ::
        ((if (policy b.descriptor).afterRhs then [⟨.radiation, Op.context b.stream call g⟩] else [])
          ++ if b.refusal? blockSize stage = none ∧ (policy b.descriptor).afterStage then
            [⟨.apply, Op.context b.stream call g⟩] else []) := by
  rw [row, refusal?]
  cases b.launch blockSize stage <;> cases (policy b.descriptor).afterRhs <;>
    cases (policy b.descriptor).afterStage <;> simp

theorem Binding.filter_round (b : Binding α) (blockSize : Nat)
    (policy : Descriptor α → BoundaryPolicy) (stage : Stage α) (call : StageCall α) (slot : Nat) :
    (b.round blockSize policy stage call).filter (fun x => x.1 = slot)
      = if b.slot = slot then b.round blockSize policy stage call else [] := by
  have hslot : ∀ x ∈ b.round blockSize policy stage call, x.1 = b.slot := by
    intro x hx
    obtain ⟨op, -, rfl⟩ := List.mem_map.mp hx
    rfl
  by_cases h : b.slot = slot
  · rw [if_pos h]
    exact List.filter_eq_self.mpr fun x hx => decide_eq_true ((hslot x hx).trans h)
  · rw [if_neg h]
    exact List.filter_eq_nil_iff.mpr fun x hx => by simpa [hslot x hx] using h

namespace Stepper

variable [Scalar α] (s : Stepper σ α) (clock : Clock α)

/-- **What a stage calls for a grid**: the rates; their correction, if the policy is to correct
rates; and, if it is to correct values, that correction. -/
def callsAt (g : Grid α) (i : Nat) : List (Call α) :=
  ⟨.rhs, s.contextAt clock g i⟩ ::
    ((if (s.boundaryFor g).policy = .radiationAndInner then
        [⟨.radiation, s.contextAt clock g i⟩] else [])
      ++ if (s.boundaryFor g).policy = .extrapolateAndInner then
        [⟨.apply, s.contextAt clock g i⟩] else [])

/-- **What a stage does to a grid**, with a launch: the kernel stands between the correction of the
rates and that of the values. -/
def opsAt (g : Grid α) (work : Launch) (i : Nat) : List (Op α) :=
  let stage := s.plan.tableau.stage i
  [.sync g.descriptor, .rates stage (callAt clock stage)]
    ++ (if (s.boundaryFor g).policy = .radiationAndInner then
        [.radiation stage (callAt clock stage)] else [])
    ++ [.kernel stage (callAt clock stage) work]
    ++ (if (s.boundaryFor g).policy = .extrapolateAndInner then
        [.boundary stage (callAt clock stage)] else [])

/-- **What a step calls on a stream**, in the order of issue: stage by stage, the grids of the
stream. -/
def callsOn (grids : List (Grid α)) (t : StreamIndex) : List (Call α) :=
  (List.range s.plan.tableau.stages).flatMap fun i =>
    (grids.filter fun g => streamFor g.id s.streams = t).flatMap (s.callsAt clock · i)

variable {s clock} {grids : List (Grid α)} {e : Nat × Grid α} {t : StreamIndex}

theorem context_bind (e : Nat × Grid α) (i : Nat) :
    Op.context (Pool.bind s.streams e).stream (callAt clock (s.plan.tableau.stage i)) e.2
      = s.contextAt clock e.2 i := rfl

theorem launch_bind {work : Launch}
    (h : Launch.forGrid e.2.descriptor e.2.functions.fields s.blockSize = .ok work)
    (stage : Stage α) : (Pool.bind s.streams e).launch s.blockSize stage = .ok work := by
  rw [Binding.launch]
  exact congrArg (Except.mapError _) h

theorem radiates_iff (d : Descriptor α) :
    (s.policyOf d).afterRhs = true ↔ (s.conditionOf d).policy = .radiationAndInner := by
  rw [policyOf]
  cases (s.conditionOf d).policy <;> simp [BoundaryPolicy.afterRhs]

/-- **A round is what its stage does to the grid**, if the launch is not refused. -/
theorem round_eq {work : Launch}
    (h : Launch.forGrid e.2.descriptor e.2.functions.fields s.blockSize = .ok work) (i : Nat) :
    (Pool.bind s.streams e).round s.blockSize s.policyOf (s.plan.tableau.stage i)
        (callAt clock (s.plan.tableau.stage i))
      = (s.opsAt clock e.2 work i).map (e.1, ·) := by
  have hrow : Op.sync e.2.descriptor :: (Pool.bind s.streams e).row s.blockSize s.policyOf
      (s.plan.tableau.stage i) (callAt clock (s.plan.tableau.stage i))
      = s.opsAt clock e.2 work i := by
    rw [Binding.row, launch_bind h, opsAt, boundaryFor]
    simp [radiates_iff, extrapolates_iff, Pool.bind, Binding.ofGrid]
  exact congrArg (List.map (e.1, ·)) hrow

/-- **The calls of a round** are those of its stage, without the correction of the values if the
launch is refused. -/
theorem flatMap_callsOf_round (he : e ∈ Pool.slots grids) (i : Nat) :
    ((Pool.bind s.streams e).round s.blockSize s.policyOf (s.plan.tableau.stage i)
        (callAt clock (s.plan.tableau.stage i))).flatMap (s.callsOf grids)
      = ⟨.rhs, s.contextAt clock e.2 i⟩ ::
        ((if (s.boundaryFor e.2).policy = .radiationAndInner then
            [⟨.radiation, s.contextAt clock e.2 i⟩] else [])
          ++ if (Pool.bind s.streams e).refusal? s.blockSize (s.plan.tableau.stage i) = none
              ∧ (s.boundaryFor e.2).policy = .extrapolateAndInner then
            [⟨.apply, s.contextAt clock e.2 i⟩] else []) := by
  have hcalls : ∀ op, s.callsOf grids ((Pool.bind s.streams e).slot, op)
      = op.calls (Pool.bind s.streams e).stream e.2 := by
    intro op
    rw [callsOf, show grids[(Pool.bind s.streams e).slot]? = some e.2 from Pool.mem_slots.mp he,
      show s.home grids (Pool.bind s.streams e).slot = _ from home_of_mem he]
    rfl
  rw [Binding.round, List.flatMap_map, List.flatMap_cons]
  simp only [hcalls, Op.calls_sync, List.nil_append, Binding.flatMap_calls_row, context_bind,
    radiates_iff, extrapolates_iff]
  rfl

/-- The calls of a round are a beginning of those of its stage. -/
theorem calls_round_isPrefix (he : e ∈ Pool.slots grids) (i : Nat) :
    ((Pool.bind s.streams e).round s.blockSize s.policyOf (s.plan.tableau.stage i)
        (callAt clock (s.plan.tableau.stage i))).flatMap (s.callsOf grids)
      <+: s.callsAt clock e.2 i := by
  rw [flatMap_callsOf_round he, callsAt, List.prefix_cons_inj, List.prefix_append_right_inj]
  by_cases h : (Pool.bind s.streams e).refusal? s.blockSize (s.plan.tableau.stage i) = none
  · simp [h]
  · simp [h]

/-- The calls of a round are those of its stage, if the launch is not refused. -/
theorem calls_round_eq (he : e ∈ Pool.slots grids) {i : Nat}
    (h : (Pool.bind s.streams e).refusal? s.blockSize (s.plan.tableau.stage i) = none) :
    ((Pool.bind s.streams e).round s.blockSize s.policyOf (s.plan.tableau.stage i)
        (callAt clock (s.plan.tableau.stage i))).flatMap (s.callsOf grids)
      = s.callsAt clock e.2 i := by
  simp [flatMap_callsOf_round he, callsAt, h]

/-! ## The calls of a stream -/

variable {memory : σ}

/-- The places on a stream are those of its grids. -/
theorem flatMap_places {β : Type} {f : Binding α → List β} {f' : Grid α → List β}
    (h : ∀ e ∈ Pool.slots grids, f (Pool.bind s.streams e) = f' e.2) :
    (s.places grids t).flatMap f
      = (grids.filter fun g => streamFor g.id s.streams = t).flatMap f' := by
  have hgrids : (grids.filter fun g => streamFor g.id s.streams = t).flatMap f'
      = ((Pool.slots grids).filter fun e => streamFor e.2.id s.streams = t).flatMap
        fun e => f' e.2 := by
    nth_rewrite 1 [← Pool.map_snd_slots grids]
    rw [List.filter_map, List.flatMap_map]
    rfl
  rw [hgrids, places, List.filter_map, List.flatMap_map]
  exact List.flatMap_congr fun e he => h e (List.mem_of_mem_filter he)

/-- **The agenda calls what is due**, if no grid is refused. -/
theorem calls_agenda (h : ∀ g ∈ grids, ¬ s.Refuses g) :
    (Request.workFor t (s.agenda clock grids)).flatMap (s.callsOf grids)
      = s.callsOn clock grids t := by
  rw [agenda, workFor_flatMap_asks, List.flatMap_assoc, Plan.stages, List.flatMap_map, callsOn]
  refine List.flatMap_congr fun i _ => ?_
  rw [List.flatMap_assoc]
  refine flatMap_places fun e he => calls_round_eq he (refusal?_eq_none ?_ _)
  exact h e.2 (Pool.mem_of_mem_slots he)

/-- **What a stage calls up to a refusal** is a beginning of what is due. -/
theorem calls_reached_isPrefix (s : Stepper σ α) (clock : Clock α) (t : StreamIndex) (i : Nat)
    {l : List (Nat × Grid α)} (hl : ∀ e ∈ l, e ∈ Pool.slots grids) :
    (((Binding.reached s.blockSize (s.plan.tableau.stage i)
          (l.map (Pool.bind s.streams))).filter (·.stream = t)).flatMap
        (Binding.round s.blockSize s.policyOf (s.plan.tableau.stage i)
          (callAt clock (s.plan.tableau.stage i)))).flatMap (s.callsOf grids)
      <+: ((l.map Prod.snd).filter fun g => streamFor g.id s.streams = t).flatMap
        (s.callsAt clock · i) := by
  induction l with
  | nil => exact List.prefix_rfl
  | cons e l ih =>
    have he := hl e List.mem_cons_self
    have hrest := ih fun e' he' => hl e' (List.mem_cons_of_mem _ he')
    have hstream : (Pool.bind s.streams e).stream = streamFor e.2.id s.streams := rfl
    cases href : (Pool.bind s.streams e).refusal? s.blockSize (s.plan.tableau.stage i) with
    | some error =>
      rw [List.map_cons, Binding.reached, href, if_pos Option.isSome_some]
      by_cases ht : streamFor e.2.id s.streams = t
      · simp only [List.map_cons, List.filter_cons, List.filter_nil, hstream, ht, decide_true,
          if_true, List.flatMap_cons, List.flatMap_nil, List.append_nil]
        exact (calls_round_isPrefix he i).trans (List.prefix_append _ _)
      · simp only [List.filter_cons, List.filter_nil, hstream, ht, decide_false]
        exact List.nil_prefix
    | none =>
      rw [List.map_cons, Binding.reached, href, if_neg (by simp)]
      by_cases ht : streamFor e.2.id s.streams = t
      · simp only [List.map_cons, List.filter_cons, hstream, ht, decide_true, if_true,
          List.flatMap_cons, List.flatMap_append, calls_round_eq he href,
          List.prefix_append_right_inj]
        exact hrest
      · simp only [List.map_cons, List.filter_cons, hstream, ht, decide_false]
        exact hrest

theorem not_refuses_of_refusal?
    (h : Command.refusal? (s.plan.stages.flatMap (s.stageCommands clock grids)) = none) :
    ∀ g ∈ grids, ¬ s.Refuses g := by
  obtain ⟨stages, hstages⟩ := s.exists_stages_eq_cons
  rw [hstages, List.flatMap_cons, Command.refusal?_append, Option.or_eq_none_iff] at h
  exact (refusal?_stageCommands_eq_none _).mp h.1

/-- **What a step asks for calls a beginning of what is due.** -/
theorem calls_requests_isPrefix :
    (Request.workFor t (s.requests clock grids memory)).flatMap (s.callsOf grids)
      <+: s.callsOn clock grids t := by
  cases h : Command.refusal? (s.plan.stages.flatMap (s.stageCommands clock grids)) with
  | none =>
    have hrequests : s.requests clock grids memory = s.agenda clock grids :=
      (requests_flatMap_stageCommands s clock grids s.plan.stages).2 h
    have hcalls : (Request.workFor t (s.requests clock grids memory)).flatMap (s.callsOf grids)
        = s.callsOn clock grids t := by
      rw [hrequests, calls_agenda (not_refuses_of_refusal? h)]
    exact hcalls ▸ List.prefix_rfl
  | some error =>
    obtain ⟨n, hn⟩ : ∃ n, s.plan.tableau.stages = n + 1 :=
      Nat.exists_eq_succ_of_ne_zero s.plan.tableau.stages_pos.ne'
    have hfirst := calls_reached_isPrefix s clock t 0 fun e (he : e ∈ Pool.slots grids) => he
    rw [Pool.map_snd_slots] at hfirst
    rw [(requests_of_refusal memory h).2.2, Request.workFor_flatMap_asks, callsOn, hn,
      List.range_succ_eq_map, List.flatMap_cons]
    exact hfirst.trans (List.prefix_append _ _)

end Stepper

/-! ## What a step carries out -/

/-- Commands that succeed have had no bad answer. -/
theorem Progress.ok_of_replay {commands : List (Command α)} :
    ∀ {answers : List (Except StepError Unit)} {p : Progress σ α},
      answers.length ≤ (Command.requests commands).length →
      (replay commands answers p).1 = .ok () → ∀ e, .error e ∉ answers := by
  induction commands with
  | nil => exact fun hl _ e he => by simp_all [Command.requests]
  | cons command rest ih =>
    intro answers p hl h e he
    cases command with
    | enter stage call => exact ih (p := p.enter stage call) hl h e he
    | report event => exact ih (p := p.report event) hl h e he
    | refuse error => cases h
    | ask request =>
      rcases answers with _ | ⟨_ | _, answers⟩
      · exact absurd he List.not_mem_nil
      · cases h
      · exact ih (p := { p with metrics := p.metrics.count request })
          (Nat.le_of_succ_le_succ hl) h e (by simpa using he)

namespace Stepper

variable [Scalar α] {s : Stepper σ α} {clock : Clock α} {grids : List (Grid α)} {memory : σ}
  {m : Machine σ α} {before current : List (Request α)} {e : Nat × Grid α} {t : StreamIndex}

/-- The agenda ends with a fence. -/
theorem exists_agenda_eq (s : Stepper σ α) (clock : Clock α) (grids : List (Grid α)) :
    ∃ rows, s.agenda clock grids = rows ++ [.fence s.last] := by
  rw [agenda, stages_eq, List.flatMap_append, List.flatMap_singleton, asks, ← List.append_assoc]
  exact ⟨_, rfl⟩

/-- A step succeeds if its commands do. -/
theorem exists_replay_of_ok {answers : List (Except StepError Unit)} {pool : Pool σ α}
    {report : Report α} (h : (s.conclude clock grids memory answers pool).result = .ok report) :
    ∃ p, (s.begin clock grids memory).replay
      (s.plan.stages.flatMap (s.stageCommands clock grids)) answers = (.ok (), p) := by
  rcases s.conclude_cases clock grids memory answers pool with ⟨p, hr, -⟩ | ⟨e, p, -, hend⟩
  · exact ⟨p, hr⟩
  · rw [hend] at h
    cases h

/-- **A step that succeeds has asked for its agenda**, and no grid is refused. -/
theorem Ending.agenda_of_ok (h : s.Ending clock grids memory before current m) {report : Report α}
    (hok : (s.conclude clock grids memory m.results m.pool).result = .ok report) :
    before ++ current = s.agenda clock grids ∧ ∀ g ∈ grids, ¬ s.Refuses g := by
  obtain ⟨p, hp⟩ := exists_replay_of_ok hok
  have hp := congrArg Prod.fst hp
  have hrequests : Command.requests (s.plan.stages.flatMap (s.stageCommands clock grids))
      = s.requests clock grids memory := rfl
  rcases h.follows.answers with ⟨hresults, hreq⟩ | ⟨request, rest, e, hreq, hresults, -, -⟩
  · rw [h.outstanding_eq, List.append_nil] at hreq
    have hrefusal := Progress.refusal?_of_replay
      (by rw [hresults, hrequests, hreq, List.length_replicate]) hp
    have hagenda := (requests_flatMap_stageCommands s clock grids s.plan.stages).2 hrefusal
    exact ⟨hreq.symm.trans hagenda, not_refuses_of_refusal? hrefusal⟩
  · -- a bad answer would have ended the step
    refine absurd ?_ (Progress.ok_of_replay ?_ hp e)
    · rw [hresults]
      exact List.mem_append_right _ List.mem_cons_self
    · rw [hresults, hrequests, hreq]
      simp only [List.length_append, List.length_replicate, List.length_cons, List.length_nil]
      omega

/-- **A step that succeeds has come past its last fence.** -/
theorem Ending.current_of_ok (h : s.Ending clock grids memory before current m)
    (hmade : before ++ current = s.agenda clock grids) : current = [] := by
  obtain ⟨rows, hrows⟩ := s.exists_agenda_eq clock grids
  obtain rfl | ⟨init, r, rfl⟩ := current.eq_nil_or_concat'
  · rfl
  · rw [hrows, ← List.append_assoc] at hmade
    obtain ⟨-, hr⟩ := List.append_inj' hmade rfl
    exact absurd (hr ▸ List.mem_append_right _ List.mem_cons_self) (h.follows.free s.last)

/-- **A step that succeeds has carried out its agenda**, on every stream. -/
theorem Ending.filter_performed_of_ok (h : s.Ending clock grids memory before current m)
    {report : Report α} (hok : (s.conclude clock grids memory m.results m.pool).result = .ok report)
    (t : StreamIndex) : m.performed.filter (fun x => s.home grids x.1 = t)
      = Request.workFor t (s.agenda clock grids) := by
  obtain ⟨hmade, -⟩ := h.agenda_of_ok hok
  have hcurrent := h.current_of_ok hmade
  have hfollows := h.follows
  rw [hcurrent] at hfollows
  rw [hcurrent, List.append_nil] at hmade
  rw [hfollows.filter_performed_eq (s.orderly_requests clock grids memory), hmade]

/-! ### The work of one slot -/

/-- **The work of a slot are its rounds**, stage by stage. -/
theorem filter_workFor_agenda (he : e ∈ Pool.slots grids) :
    (Request.workFor (Pool.bind s.streams e).stream (s.agenda clock grids)).filter
        (fun x => x.1 = e.1)
      = s.plan.stages.flatMap fun stage =>
        (Pool.bind s.streams e).round s.blockSize s.policyOf stage (callAt clock stage) := by
  have hnodup : (s.places grids (Pool.bind s.streams e).stream).Nodup := by
    refine List.Nodup.of_map Binding.slot ((List.filter_sublist.map _).nodup ?_)
    rw [List.map_map]
    exact Pool.nodup_slots grids
  rw [agenda, workFor_flatMap_asks, List.filter_flatMap]
  refine List.flatMap_congr fun stage _ => ?_
  rw [List.filter_flatMap, List.flatMap_eq_of_mem (mem_places.mpr ⟨e, he, rfl, rfl⟩) hnodup]
  · exact (Binding.filter_round ..).trans (if_pos rfl)
  · intro b hb hne
    refine (Binding.filter_round ..).trans (if_neg fun hslot => hne ?_)
    obtain ⟨e', he', rfl, -⟩ := mem_places.mp hb
    rw [Pool.eq_of_mem_slots he he' hslot]

/-- What a step that succeeds carries out for a slot. -/
theorem Ending.filter_slot_of_ok (h : s.Ending clock grids memory before current m)
    {report : Report α} (hok : (s.conclude clock grids memory m.results m.pool).result = .ok report)
    (he : e ∈ Pool.slots grids) : m.performed.filter (fun x => x.1 = e.1)
      = s.plan.stages.flatMap fun stage =>
        (Pool.bind s.streams e).round s.blockSize s.policyOf stage (callAt clock stage) := by
  rw [← filter_workFor_agenda he, ← h.filter_performed_of_ok hok, List.filter_filter]
  refine List.filter_congr fun x _ => ?_
  by_cases hx : x.1 = e.1
  · simp [hx, home_of_mem he]
  · simp [hx]

/-! ## The calls of a step -/

/-- A call names the stage of its operation and the stream of its slot. -/
theorem context_of_mem_callsOf {x : Nat × Op α} {c : Call α} (h : c ∈ s.callsOf grids x) :
    x.2.number? = some c.context.stage ∧ c.context.stream = s.home grids x.1 := by
  rw [callsOf] at h
  cases hg : grids[x.1]? with
  | none =>
    rw [hg] at h
    cases h
  | some g =>
    rw [hg] at h
    obtain ⟨call, hnumber, hcontext⟩ := Op.context_of_mem_calls h
    rw [hcontext]
    exact ⟨hnumber, rfl⟩

/-- The calls on a stream are those of its operations. -/
theorem filter_calls (work : List (Nat × Op α)) (t : StreamIndex) :
    (work.flatMap (s.callsOf grids)).filter (fun c => c.context.stream = t)
      = (work.filter fun x => s.home grids x.1 = t).flatMap (s.callsOf grids) := by
  induction work with
  | nil => rfl
  | cons x work ih =>
    rw [List.flatMap_cons, List.filter_append, ih, List.filter_cons]
    by_cases hx : s.home grids x.1 = t
    · rw [if_pos (decide_eq_true hx), List.flatMap_cons, List.filter_eq_self.mpr]
      exact fun c hc => decide_eq_true ((context_of_mem_callsOf hc).2.trans hx)
    · rw [if_neg (by simpa using hx), List.filter_eq_nil_iff.mpr, List.nil_append]
      exact fun c hc => by simpa [(context_of_mem_callsOf hc).2] using hx

/-- Calls are ordered by their stages if operations are. -/
theorem pairwise_calls {work : List (Nat × Op α)} (h : work.Pairwise (·.2.Precedes ·.2)) :
    (work.flatMap (s.callsOf grids)).Pairwise (·.context.stage ≤ ·.context.stage) := by
  refine List.pairwise_flatMap.mpr ⟨fun x _ => ?_, h.imp fun hxy c hc c' hc' => ?_⟩
  · refine List.pairwise_of_forall_mem_list fun c hc c' hc' => ?_
    have hstage := (context_of_mem_callsOf hc).1.symm.trans (context_of_mem_callsOf hc').1
    exact (Option.some.inj hstage).le
  · exact hxy _ _ (context_of_mem_callsOf hc).1 (context_of_mem_callsOf hc').1

/-- The calls of what a step carries out for a slot, if it succeeds. -/
theorem Ending.calls_of_ok (h : s.Ending clock grids memory before current m) {report : Report α}
    (hok : (s.conclude clock grids memory m.results m.pool).result = .ok report)
    (he : e ∈ Pool.slots grids) :
    (m.performed.filter fun x => x.1 = e.1).flatMap (s.callsOf grids)
        = (List.range s.plan.tableau.stages).flatMap (s.callsAt clock e.2)
      ∧ ∃ work, m.performed.filter (fun x => x.1 = e.1)
        = ((List.range s.plan.tableau.stages).flatMap (s.opsAt clock e.2 work)).map (e.1, ·) := by
  have hrefuses := (h.agenda_of_ok hok).2 e.2 (Pool.mem_of_mem_slots he)
  rw [h.filter_slot_of_ok hok he, Plan.stages, List.flatMap_map]
  constructor
  · rw [List.flatMap_assoc]
    exact List.flatMap_congr fun i _ => calls_round_eq he (refusal?_eq_none hrefuses _)
  · cases hl : Launch.forGrid e.2.descriptor e.2.functions.fields s.blockSize with
    | error fault => exact absurd ⟨fault, hl⟩ hrefuses
    | ok work =>
      refine ⟨work, ?_⟩
      rw [List.map_flatMap]
      exact List.flatMap_congr fun i _ => round_eq hl i

section Schedule

variable (s : Stepper σ α) (clock : Clock α) (grids : List (Grid α)) (memory : σ)
  (schedule : Schedule)

theorem abreast_machine : (s.machine clock grids memory schedule).Abreast := by
  obtain ⟨before, current, hfollows⟩ := s.follows_machine clock grids memory schedule
  exact hfollows.abreast (s.orderly_requests clock grids memory)

/-- A step carries out its stages one after the other. -/
theorem pairwise_carriedOut :
    (s.carriedOut clock grids memory schedule).Pairwise (·.2.Precedes ·.2) := by
  rw [carriedOut]
  split
  · exact .nil
  · exact Machine.Follows.pairwise_run (s.orderly_requests clock grids memory)
      (Machine.follows_start s.streams grids memory stream_mem_indices) .nil schedule

/-- **What is called on a stream is a beginning of what is due there.** -/
theorem calls_isPrefix (t : StreamIndex) :
    ((s.carriedOut clock grids memory schedule).flatMap (s.callsOf grids)).filter
      (fun c => c.context.stream = t) <+: s.callsOn clock grids t := by
  rw [filter_calls, carriedOut]
  split
  · exact List.nil_prefix
  · obtain ⟨before, current, hfollows⟩ := s.follows_machine clock grids memory schedule
    obtain ⟨rest, hrest⟩ := hfollows.answers.isPrefix
    have hwork : Request.workFor t (before ++ current)
        <+: Request.workFor t (s.requests clock grids memory) := by
      rw [← hrest, Request.workFor_append t (before ++ current)]
      exact List.prefix_append _ _
    have hperformed :=
      hfollows.filter_performed_isPrefix (s.orderly_requests clock grids memory) t
    exact ((hperformed.trans hwork).flatMap _).trans calls_requests_isPrefix

end Schedule

/-- **The calls of a step.**  In every schedule the collaborators are called for the operations that
are carried out, and each call tells what it is for.  The calls are in the order of the stages, and
while an operation of a stage waits in a queue none of a later stage has been carried out or waits
in any.  The calls on each stream are a beginning of those that are due there, in the order of
issue.  In a step that succeeds they are all that are due, on every stream; and for every slot the
stages call in turn for the rates, for the correction of the rates if that is the policy of the
grid's condition, and, after the kernel, for the correction of the values if that is the policy.
The condition is the one for all grids, if there is one, and otherwise the grid's own. -/
theorem calls_of_stepUnder {schedule : Schedule} {a : Advance σ α}
    (h : s.stepUnder clock grids memory schedule = some a) :
    ∃ work calls, work = s.carriedOut clock grids memory schedule
      ∧ calls = work.flatMap (s.callsOf grids)
      ∧ s.logged.stepUnder clock grids (memory, []) schedule = some (a.logged calls)
      ∧ calls.Pairwise (·.context.stage ≤ ·.context.stage)
      ∧ (∀ early late, schedule = early ++ late → (s.machine clock grids memory early).Abreast)
      ∧ (∀ t, calls.filter (·.context.stream = t) <+: s.callsOn clock grids t)
      ∧ (∀ report, a.result = .ok report →
        (∀ t, calls.filter (·.context.stream = t) = s.callsOn clock grids t)
          ∧ ∀ slot g, grids[slot]? = some g →
            (work.filter (·.1 = slot)).flatMap (s.callsOf grids)
                = (List.range s.plan.tableau.stages).flatMap (s.callsAt clock g)
              ∧ ∃ launch, work.filter (·.1 = slot)
                = ((List.range s.plan.tableau.stages).flatMap (s.opsAt clock g launch)).map
                  (slot, ·))
      ∧ ∀ g, s.boundaryFor g = s.outerBoundary.getD g.descriptor.boundary := by
  have hlogged : s.logged.stepUnder clock grids (memory, []) schedule
      = some (a.logged ((s.carriedOut clock grids memory schedule).flatMap (s.callsOf grids))) := by
    rw [stepUnder_logged, h]
    rfl
  refine ⟨_, _, rfl, rfl, hlogged, pairwise_calls (s.pairwise_carriedOut ..),
    fun early _ _ => s.abreast_machine clock grids memory early, s.calls_isPrefix _ _ _ _,
    ?_, fun _ => rfl⟩
  intro report hok
  by_cases hp : s.poisoned = true
  · rw [stepUnder_of_poisoned hp] at h
    rw [← Option.some.inj h] at hok
    cases hok
  · rw [stepUnder_eq hp, Option.ite_none_right_eq_some] at h
    obtain ⟨hfinished, ha⟩ := h
    rw [← Option.some.inj ha] at hok
    obtain ⟨before, current, hm⟩ := exists_ending_machine hfinished
    rw [carriedOut, if_neg hp]
    refine ⟨fun t => ?_, fun slot g hg => hm.calls_of_ok (e := (slot, g)) hok ?_⟩
    · rw [filter_calls, hm.filter_performed_of_ok hok, calls_agenda (hm.agenda_of_ok hok).2]
    · exact Pool.mem_slots.mpr hg

/-- Grids 3 and 5 share stream 1, and the issuing side and the workers take turns. -/
theorem calls_of_stepUnder_heunThird :
    let s : Stepper Unit Rat := .heunThird (.affine 1 2 3) (.edge 2)
    let clock : Clock Rat := ⟨0, 1, 0⟩
    let grids := [Grid.pair 0 .radiation 1 2, Grid.pair 3 .extrapolation 3 4,
      Grid.pair 5 .radiation 5 6]
    let schedule := (List.replicate 50 [Actor.worker 1, .issuer, .worker 0]).flatten
    ∃ a, s.logged.stepUnder clock grids ((), []) schedule = some a
      ∧ ((a.memory.2.filter (·.context.stream = 1)).map fun c =>
          (c.hook, c.context.grid.id, c.context.stage, c.context.time))
        = [(.rhs, 3, 1, 0), (.apply, 3, 1, 0), (.rhs, 5, 1, 0), (.radiation, 5, 1, 0),
          (.rhs, 3, 2, 1 / 3), (.apply, 3, 2, 1 / 3), (.rhs, 5, 2, 1 / 3),
          (.radiation, 5, 2, 1 / 3),
          (.rhs, 3, 3, 2 / 3), (.apply, 3, 3, 2 / 3), (.rhs, 5, 3, 2 / 3),
          (.radiation, 5, 3, 2 / 3)] := by
  intro s clock grids schedule
  have hsome : ((s.stepUnder clock grids () schedule).map fun a => a.result.map fun _ => ())
      = some (.ok ()) := by decide +kernel
  obtain ⟨a, ha, hok⟩ := Option.map_eq_some_iff.mp hsome
  obtain ⟨report, hreport⟩ := Advance.exists_report_of_map hok
  obtain ⟨work, calls, -, -, hlogged, -, -, -, hall, -⟩ := calls_of_stepUnder ha
  refine ⟨_, hlogged, ?_⟩
  rw [show (a.logged calls).memory.2 = calls from rfl, (hall report hreport).1 1]
  decide +kernel

end Stepper

end MethodOfLines
