import MethodOfLines.Proofs.Rounds
import MethodOfLines.Proofs.Standing

/-!
# Proofs/Stops — where a failed step stopped, and where its grids are

A step fails in one of three places (`Stepper.Stops`): a launch is refused, which happens in the
first stage or never (`Stepper.requests_of_refusal`); a fence finds an error; or an operation is
sent to a stream that is lost.  What it asked for until then belongs to the stage that failed or an
earlier one (`Stepper.Stops.number_le`).  If no stream was lost, then in the last stage all earlier
stages and some whole rows of the last have been asked for (`Stepper.Stops.exists_rows`).

A machine keeps its places and its streams, so at the end the grid of a place is where the turns of
its stream's worker took it (`Stepper.Ending.exists_turns`), and has the shape it had
(`Stepper.Ends.forall₂_refills`).
-/

namespace MethodOfLines

variable {σ α : Type} [Scalar α]

/-! ## Places and streams are kept -/

namespace Machine

variable {ops : Operators σ α} {d : Discipline} {m m' : Machine σ α}

theorem kept_of_move? {actor : Actor} (h : m.move? ops d actor = some m') :
    m'.bindings = m.bindings
      ∧ m'.lanes.map (·.stream.index) = m.lanes.map (·.stream.index) := by
  cases actor with
  | worker s =>
    obtain ⟨lane, lane', after, performed, hlane, hadv, rfl⟩ := worker?_cases h
    obtain ⟨-, rfl⟩ := mem_of_lane? hlane
    exact ⟨rfl, map_replace fun old _ hi => (Lane.index_of_advance? hadv).trans hi.symm⟩
  | issuer =>
    rcases issuer?_cases h with ⟨b, call, op, rest, -, -, rfl⟩ | ⟨stage, rest, -, -, rfl⟩ |
      ⟨stage, s, others, -, -, rfl⟩ | ⟨stage, answer, -, -, -, rfl⟩
    · exact ⟨rfl, indices_sending m b op⟩
    · exact ⟨rfl, List.map_map⟩
    · exact ⟨rfl, map_replace fun lane _ _ => by simp only [stream_send]⟩
    · exact ⟨rfl, rfl⟩

/-- **A machine keeps its places and its streams.** -/
theorem kept_run (ops : Operators σ α) (d : Discipline) (m : Machine σ α) (schedule : Schedule) :
    (m.run ops d schedule).bindings = m.bindings
      ∧ (m.run ops d schedule).lanes.map (·.stream.index) = m.lanes.map (·.stream.index) :=
  run_invariant (I := fun n => n.bindings = m.bindings
      ∧ n.lanes.map (·.stream.index) = m.lanes.map (·.stream.index))
    (fun h hmove => ⟨(kept_of_move? hmove).1.trans h.1, (kept_of_move? hmove).2.trans h.2⟩)
    ⟨rfl, rfl⟩ schedule

end Machine

omit [Scalar α] in
/-- Grids looked up place by place. -/
theorem Pool.forall₂_slots_grids {pool : Pool σ α} {size : Nat} {grids : List (Grid α)}
    (hb : pool.bindings = (slots grids).map (bind size)) {R : Nat × Grid α → Grid α → Prop}
    (h : ∀ e ∈ slots grids, ∃ g, pool.grid? (bind size e) = some g ∧ R e g) :
    List.Forall₂ R (slots grids) pool.grids := by
  have hall : ∀ l : List (Nat × Grid α),
      (∀ e ∈ l, ∃ g, pool.grid? (bind size e) = some g ∧ R e g) →
      List.Forall₂ R l ((l.map (bind size)).filterMap pool.grid?) := by
    intro l
    induction l with
    | nil => exact fun _ => .nil
    | cons e l ih =>
      intro h
      obtain ⟨g, hg, hr⟩ := h e List.mem_cons_self
      rw [List.map_cons, List.filterMap_cons, hg]
      exact .cons hr (ih fun e' he' => h e' (List.mem_cons_of_mem _ he'))
  have hgrids := hall (slots grids) h
  rwa [← hb] at hgrids

omit [Scalar α] in
theorem Pool.forall₂_grids {pool : Pool σ α} {size : Nat} {grids : List (Grid α)}
    (hb : pool.bindings = (slots grids).map (bind size)) {R : Grid α → Grid α → Prop}
    (h : ∀ e ∈ slots grids, ∃ g, pool.grid? (bind size e) = some g ∧ R e.2 g) :
    List.Forall₂ R grids pool.grids := by
  have hgrids := List.forall₂_map_left_iff.mpr (forall₂_slots_grids hb h)
  rwa [map_snd_slots] at hgrids

/-! ## Refusals -/

namespace Progress

omit [Scalar α] in
/-- **Commands fail by an answer or by a refusal**, and by a refusal only once everything before it
has been answered well. -/
theorem replay_error {commands : List (Command α)} {e : StepError} :
    ∀ {answers : List (Except StepError Unit)} {p : Progress σ α},
      (replay commands answers p).1 = .error e →
      .error e ∈ answers ∨ ∃ error, e = .dispatch error ∧ Command.refusal? commands = some error
        ∧ List.replicate (Command.requests commands).length (.ok ()) <+: answers := by
  induction commands with
  | nil => exact fun h => by cases h
  | cons command rest ih =>
    intro answers p h
    cases command with
    | enter stage call => exact ih (p := p.enter stage call) h
    | report event => exact ih (p := p.report event) h
    | refuse error => exact .inr ⟨error, (Except.error.inj h).symm, rfl, List.nil_prefix⟩
    | ask request =>
      rcases answers with _ | ⟨_ | _, answers⟩
      · cases h
      · exact .inl (List.mem_cons.mpr (.inl h.symm))
      · rcases ih (p := { p with metrics := p.metrics.count request }) h with
          he | ⟨error, he, hrefusal, hok⟩
        · exact .inl (List.mem_cons_of_mem _ he)
        · exact .inr ⟨error, he, hrefusal, List.cons_prefix_cons.mpr ⟨rfl, hok⟩⟩

end Progress

omit [Scalar α] in
theorem Command.refusal?_flatMap_eq_none {β : Type} {f : β → List (Command α)} {l : List β}
    (h : ∀ b ∈ l, refusal? (f b) = none) : refusal? (l.flatMap f) = none := by
  induction l with
  | nil => rfl
  | cons b l ih =>
    rw [List.flatMap_cons, refusal?_append, h b List.mem_cons_self,
      ih fun b' hb' => h b' (List.mem_cons_of_mem _ hb')]
    rfl

namespace Stepper

variable {s : Stepper σ α} {clock : Clock α} {grids : List (Grid α)} {memory : σ}

/-- **What one stage can launch, every stage can.** -/
theorem refusal?_stageCommands_eq_none (stage : Stage α) :
    Command.refusal? (s.stageCommands clock grids stage) = none ↔ ∀ g ∈ grids, ¬ s.Refuses g := by
  rw [stageCommands, Command.refusal?_forStage, List.findSome?_map, List.findSome?_eq_none_iff]
  constructor
  · rintro h g hg ⟨fault, hfault⟩
    obtain ⟨i, hi⟩ := List.mem_iff_getElem?.mp hg
    have hnone := h (i, g) (Pool.mem_slots.mpr hi)
    rw [Function.comp_apply, refusal?_bind, hfault] at hnone
    cases hnone
  · intro h e he
    exact refusal?_eq_none (h e.2 (Pool.mem_of_mem_slots he)) stage

/-- A refusal names its stage and the grid that could not be launched. -/
theorem of_refusal {stage : Stage α} {error : DispatchError}
    (h : Command.refusal? (s.stageCommands clock grids stage) = some error) :
    error.stage = stage.number ∧ ∃ g ∈ grids, g.id = error.grid
      ∧ Launch.forGrid g.descriptor g.functions.fields s.blockSize = .error error.fault := by
  rw [stageCommands, Command.refusal?_forStage, List.findSome?_map] at h
  obtain ⟨e, he, hrefusal⟩ := List.exists_of_findSome?_eq_some h
  rw [Function.comp_apply, refusal?_bind] at hrefusal
  split at hrefusal
  · next fault hfault =>
    obtain rfl := Option.some.inj hrefusal
    exact ⟨rfl, e.2, Pool.mem_of_mem_slots he, rfl, hfault⟩
  · cases hrefusal

/-- **A launch is refused in the first stage or never.**  Then the rows that stage reached have been
asked for. -/
theorem requests_of_refusal (memory : σ) {error : DispatchError}
    (h : Command.refusal? (s.plan.stages.flatMap (s.stageCommands clock grids)) = some error) :
    error.stage = 1
      ∧ (∃ g ∈ grids, g.id = error.grid
        ∧ Launch.forGrid g.descriptor g.functions.fields s.blockSize = .error error.fault)
      ∧ s.requests clock grids memory
        = (Binding.reached s.blockSize (s.plan.tableau.stage 0)
            ((Pool.slots grids).map (Pool.bind s.streams))).flatMap (Binding.asks s.blockSize
              s.policyOf (s.plan.tableau.stage 0) (callAt clock (s.plan.tableau.stage 0))) := by
  obtain ⟨stages, hstages⟩ := s.exists_stages_eq_cons
  cases hfirst : Command.refusal? (s.stageCommands clock grids (s.plan.tableau.stage 0)) with
  | some error' =>
    rw [hstages, List.flatMap_cons, Command.refusal?_append, hfirst] at h
    obtain rfl := Option.some.inj h
    obtain ⟨hstage, hgrid⟩ := of_refusal hfirst
    refine ⟨hstage, hgrid, ?_⟩
    rw [requests, commands_begin, hstages, List.flatMap_cons,
      Command.requests_append_of_refusal hfirst, stageCommands, Command.requests_forStage,
      if_neg, List.append_nil]
    rw [← Command.refusal?_forStage, ← stageCommands, hfirst]
    simp
  | none =>
    have hall := (refusal?_stageCommands_eq_none _).mp hfirst
    rw [Command.refusal?_flatMap_eq_none fun stage _ =>
      (refusal?_stageCommands_eq_none stage).mpr hall] at h
    cases h

end Stepper

/-! ## The end of a step -/

namespace Stepper

variable {s : Stepper σ α} {clock : Clock α} {grids : List (Grid α)} {memory : σ}
  {before current : List (Request α)} {m : Machine σ α}

/-- **A machine at the end of a step.** -/
structure Ending (s : Stepper σ α) (clock : Clock α) (grids : List (Grid α)) (memory : σ)
    (before current : List (Request α)) (m : Machine σ α) : Prop where
  follows : m.Follows s.operators (Worker.fresh s.streams grids) (s.home grids)
    (s.requests clock grids memory) before current
  finished : m.isFinished = true
  bindings : m.bindings = (Pool.slots grids).map (Pool.bind s.streams)
  streams : m.lanes.map (·.stream.index) = (Pool.spawn s.streams grids memory).indices

theorem ending_of_follows {schedule : Schedule}
    (hfollows : (s.machine clock grids memory schedule).Follows s.operators
      (Worker.fresh s.streams grids) (s.home grids) (s.requests clock grids memory) before current)
    (h : (s.machine clock grids memory schedule).isFinished = true) :
    s.Ending clock grids memory before current (s.machine clock grids memory schedule) := by
  obtain ⟨hbindings, hstreams⟩ := Machine.kept_run s.operators .stop
    (Machine.start s.streams grids memory (s.requests clock grids memory)) schedule
  refine ⟨hfollows, h, hbindings, hstreams.trans ?_⟩
  rw [Machine.start, List.map_map]
  rfl

theorem exists_ending_machine {schedule : Schedule}
    (h : (s.machine clock grids memory schedule).isFinished = true) :
    ∃ before current,
      s.Ending clock grids memory before current (s.machine clock grids memory schedule) := by
  obtain ⟨before, current, hfollows⟩ := s.follows_machine clock grids memory schedule
  exact ⟨before, current, ending_of_follows hfollows h⟩

theorem Ending.queue_eq (h : s.Ending clock grids memory before current m) :
    ∀ lane ∈ m.lanes, lane.queue = [] := by
  have hfinished := h.finished
  simp only [Machine.isFinished, Bool.and_eq_true, List.all_eq_true, Lane.isIdle,
    List.isEmpty_iff] at hfinished
  exact hfinished.2

theorem Ending.outstanding_eq (h : s.Ending clock grids memory before current m) :
    m.outstanding = [] := by
  have hfinished := h.finished
  simp only [Machine.isFinished, Bool.and_eq_true, List.isEmpty_iff,
    Option.isNone_iff_eq_none] at hfinished
  rw [Machine.outstanding_of_free hfinished.1.2, hfinished.1.1]

/-- **The grid of a place is where the turns of its stream's worker took it**, turns of which what
is known of all turns holds. -/
theorem Ending.exists_turns_of_follows (h : s.Ending clock grids memory before current m)
    {taken : StreamIndex → Worker α → Turn σ α → Prop}
    (hfollows : m.Follows s.operators (Worker.fresh s.streams grids) (s.home grids)
      (s.requests clock grids memory) before current taken)
    {e : Nat × Grid α} (he : e ∈ Pool.slots grids) :
    ∃ lane ∈ m.lanes, lane.stream.index = (Pool.bind s.streams e).stream ∧ ∃ past turns,
      lane.Recalls s.operators (Worker.fresh s.streams grids (Pool.bind s.streams e).stream)
          (Request.workFor (Pool.bind s.streams e).stream before)
          (Request.workFor (Pool.bind s.streams e).stream current) past turns
          (taken (Pool.bind s.streams e).stream)
        ∧ m.pool.grid? (Pool.bind s.streams e)
          = ((Worker.fresh s.streams grids (Pool.bind s.streams e).stream).after s.operators
              (past ++ turns)).grid? e.1 := by
  have hindex : (Pool.bind s.streams e).stream ∈ m.lanes.map (·.stream.index) := by
    rw [h.streams, Pool.indices_spawn]
    exact Stream.mem_indices.mpr ⟨_, List.mem_map_of_mem he, rfl⟩
  obtain ⟨lane, hmem, hi⟩ := List.mem_map.mp hindex
  obtain ⟨past, turns, hrec, -⟩ := hfollows.lanes lane hmem
  have hnodup : m.pool.indices.Nodup := by
    rw [Pool.indices, Machine.pool, List.map_map]
    exact h.follows.sound.nodup
  have hstream : m.pool.stream? (Pool.bind s.streams e).stream = some lane.stream :=
    hi ▸ Pool.stream?_of_mem hnodup (List.mem_map_of_mem hmem)
  rw [hi] at hrec
  refine ⟨lane, hmem, hi, past, turns, hrec, ?_⟩
  rw [Pool.grid?, hstream, Option.bind_some, Worker.grid?, hrec.grids_eq]
  rfl

theorem Ending.exists_turns (h : s.Ending clock grids memory before current m)
    {e : Nat × Grid α} (he : e ∈ Pool.slots grids) :
    ∃ lane ∈ m.lanes, ∃ past turns,
      lane.Recalls s.operators (Worker.fresh s.streams grids (Pool.bind s.streams e).stream)
          (Request.workFor (Pool.bind s.streams e).stream before)
          (Request.workFor (Pool.bind s.streams e).stream current) past turns
        ∧ m.pool.grid? (Pool.bind s.streams e)
          = ((Worker.fresh s.streams grids (Pool.bind s.streams e).stream).after s.operators
              (past ++ turns)).grid? e.1 := by
  obtain ⟨lane, hmem, -, hturns⟩ := h.exists_turns_of_follows h.follows he
  exact ⟨lane, hmem, hturns⟩

/-- The grids of a machine at the end of a step have the shapes they had. -/
theorem Ending.forall₂_refills (h : s.Ending clock grids memory before current m) :
    List.Forall₂ Grid.Refills grids m.pool.grids := by
  refine Pool.forall₂_grids h.bindings fun e he => ?_
  obtain ⟨lane, -, past, turns, -, hgrid⟩ := h.exists_turns he
  rw [hgrid]
  exact Worker.exists_grid?_after (R := e.2.Refills)
    (fun x _ _ _ _ hg => hg.trans (Op.refills_execute ..)) (Worker.grid?_fresh he rfl) (.refl e.2)

/-- **However a step ends, its grids keep their shapes.** -/
theorem Ends.forall₂_refills {a : Advance σ α} (h : s.Ends clock grids memory a) :
    List.Forall₂ Grid.Refills grids a.grids := by
  by_cases hp : s.poisoned = true
  · rw [h.of_poisoned hp]
    exact List.forall₂_same.mpr fun g _ => .refl g
  · obtain ⟨schedule, hfinished, rfl⟩ := h.exists_machine hp
    obtain ⟨before, current, hending⟩ := exists_ending_machine hfinished
    rw [grids_conclude]
    exact hending.forall₂_refills

/-! ## Where a step stopped -/

/-- **Where a failed step stopped**, after the requests `made`, and the stage it failed in. -/
inductive Stops (s : Stepper σ α) (clock : Clock α) (grids : List (Grid α)) (memory : σ)
    (m : Machine σ α) (made : List (Request α)) : Nat → Prop where
  /-- A launch was refused after whole rows of the first stage. -/
  | refused {bs} (hbs : bs <+: (Pool.slots grids).map (Pool.bind s.streams))
      (hmade : made = bs.flatMap (Binding.asks s.blockSize s.policyOf (s.plan.tableau.stage 0)
        (callAt clock (s.plan.tableau.stage 0)))) : Stops s clock grids memory m made 1
  /-- The fence of a stage found an error. -/
  | fence {stage rest} (h : s.requests clock grids memory = made ++ .fence stage :: rest) :
      Stops s clock grids memory m made stage.number
  /-- An operation was sent to a stream that is lost. -/
  | lost {b call op rest} (h : s.requests clock grids memory = made ++ .submit b call op :: rest)
      {lane} (hmem : lane ∈ m.lanes) (hl : lane.stream.worker.lost = true) :
      Stops s clock grids memory m made call.number

/-- **A step that fails has stopped somewhere**, in the stage its error names. -/
theorem Ending.exists_stops (h : s.Ending clock grids memory before current m) {e : StepError}
    {p : Progress σ α} (he : (s.begin clock grids memory).replay
      (s.plan.stages.flatMap (s.stageCommands clock grids)) m.results = (.error e, p)) :
    ∃ n, e.stage? = some n ∧ s.Stops clock grids memory m (before ++ current) n := by
  rcases h.follows.answers with ⟨hresults, hreq⟩ | ⟨request, rest, e', hreq, hresults, -, he'⟩
  · -- every answer was good
    rw [h.outstanding_eq, List.append_nil] at hreq
    rcases Progress.replay_error (congrArg Prod.fst he) with hmem | ⟨error, rfl, hrefusal, -⟩
    · rw [hresults] at hmem
      cases (List.mem_replicate.mp hmem).2
    · obtain ⟨hstage, -, hrows⟩ := requests_of_refusal memory hrefusal
      exact ⟨1, congrArg some hstage,
        .refused (Binding.reached_isPrefix ..) (hreq.symm.trans hrows)⟩
  · obtain rfl : e = e' := by
      rcases Progress.replay_error (congrArg Prod.fst he) with hmem | ⟨error, rfl, -, hok⟩
      · rw [hresults, List.mem_append] at hmem
        rcases hmem with hmem | hmem
        · cases (List.mem_replicate.mp hmem).2
        · exact Except.error.inj (List.mem_singleton.mp hmem)
      · -- the answer after the good ones is not good
        have hlength := congrArg List.length hreq
        rw [List.length_append, List.length_cons] at hlength
        have hlt : (before ++ current).length < (s.requests clock grids memory).length := by omega
        rw [hresults] at hok
        have hget := List.prefix_iff_getElem?.mp hok (before ++ current).length
          (by rw [List.length_replicate]; exact hlt)
        simp at hget
    have hmem : .error e ∈ m.results := by
      rw [hresults]
      exact List.mem_append_right _ List.mem_cons_self
    refine ⟨_, he', ?_⟩
    cases request with
    | fence stage => exact .fence hreq
    | submit b call op =>
      obtain ⟨lane, hlane, hl⟩ := h.follows.gone hreq hmem
      exact .lost hreq hlane hl

variable {made : List (Request α)} {n : Nat}

/-- A step fails in one of its stages. -/
theorem Stops.exists_stage (h : s.Stops clock grids memory m made n) :
    ∃ stage ∈ s.plan.stages, n = stage.number := by
  have hnext : ∀ {r rest}, s.requests clock grids memory = made ++ r :: rest →
      ∃ stage ∈ s.plan.stages, r.number = stage.number := by
    intro r rest hreq
    have hmem : r ∈ s.requests clock grids memory := by
      rw [hreq]
      exact List.mem_append_right _ List.mem_cons_self
    obtain ⟨stage, hstage, hmem⟩ :=
      List.mem_flatMap.mp ((requests_prefix_agenda s clock grids memory).subset hmem)
    exact ⟨stage, hstage, number_of_mem_asks hmem⟩
  cases h with
  | refused _ _ =>
    obtain ⟨stages, hstages⟩ := s.exists_stages_eq_cons
    exact ⟨_, hstages ▸ List.mem_cons_self, rfl⟩
  | fence h => exact hnext h
  | lost h _ _ => exact hnext h

/-- **What a failed step asked for belongs to the stage it failed in, or an earlier one.** -/
theorem Stops.number_le (h : s.Stops clock grids memory m made n) : ∀ r ∈ made, r.number ≤ n := by
  have hordered : ∀ {r rest}, s.requests clock grids memory = made ++ r :: rest →
      ∀ r' ∈ made, r'.number ≤ r.number := by
    intro r rest hreq r' hr'
    have hpairwise := Request.number_le_of_chain (s.orderly_requests clock grids memory).chain
    rw [hreq] at hpairwise
    exact (List.pairwise_append.mp hpairwise).2.2 r' hr' r List.mem_cons_self
  cases h with
  | refused hbs hmade =>
    intro r hr
    rw [hmade] at hr
    obtain ⟨b, -, hr⟩ := List.mem_flatMap.mp hr
    obtain ⟨op, -, rfl⟩ := List.mem_map.mp hr
    exact Nat.le_refl 1
  | fence h => exact hordered h
  | lost h _ _ => exact hordered h

/-! ### The last stage -/

/-- The last stage. -/
def last (s : Stepper σ α) : Stage α := s.plan.tableau.stage (s.plan.tableau.stages - 1)

/-- The stages before the last. -/
def earlier (s : Stepper σ α) : List (Stage α) :=
  (List.range (s.plan.tableau.stages - 1)).map s.plan.tableau.stage

theorem number_last (s : Stepper σ α) : s.last.number = s.plan.tableau.stages :=
  Nat.succ_pred_eq_of_pos s.plan.tableau.stages_pos

theorem stages_eq (s : Stepper σ α) : s.plan.stages = s.earlier ++ [s.last] := by
  have hpos : s.plan.tableau.stages = s.plan.tableau.stages - 1 + 1 := s.number_last.symm
  rw [Plan.stages, earlier, last, hpos, List.range_succ, List.map_append, ← hpos]
  rfl

theorem number_le_stages {stage : Stage α} (h : stage ∈ s.plan.stages) :
    stage.number ≤ s.plan.tableau.stages := by
  obtain ⟨i, hi, rfl⟩ := List.mem_map.mp h
  exact List.mem_range.mp hi

theorem earlier_subset_agenda :
    s.earlier.flatMap (s.asks clock grids) ⊆ s.agenda clock grids := by
  rw [agenda, stages_eq, List.flatMap_append]
  exact List.subset_append_left _ _

theorem number_lt_of_mem_earlier {r : Request α}
    (h : r ∈ s.earlier.flatMap (s.asks clock grids)) : r.number < s.plan.tableau.stages := by
  obtain ⟨stage, hstage, hr⟩ := List.mem_flatMap.mp h
  obtain ⟨i, hi, rfl⟩ := List.mem_map.mp hstage
  rw [number_of_mem_asks hr]
  exact Nat.add_lt_of_lt_sub (List.mem_range.mp hi)

/-- **In the last stage, the earlier ones and some whole rows of the last have been asked for**, if
no stream was lost. -/
theorem Stops.exists_rows (h : s.Stops clock grids memory m made n)
    (hn : n = s.plan.tableau.stages) (hl : ∀ lane ∈ m.lanes, lane.stream.worker.lost = false) :
    ∃ bs, bs <+: (Pool.slots grids).map (Pool.bind s.streams)
      ∧ made = s.earlier.flatMap (s.asks clock grids)
        ++ bs.flatMap (Binding.asks s.blockSize s.policyOf s.last (callAt clock s.last)) := by
  cases h with
  | refused hbs hmade =>
    refine ⟨_, hbs, ?_⟩
    rw [earlier, last, ← hn]
    exact hmade
  | lost _ hmem hlost =>
    rw [hl _ hmem] at hlost
    cases hlost
  | @fence stage rest hreq =>
    obtain ⟨later, hlater⟩ := requests_prefix_agenda s clock grids memory
    rw [hreq, List.append_assoc, List.cons_append] at hlater
    -- nothing follows the last fence
    have hend : rest ++ later = [] := by
      have hchain := isChain_flatMap_asks s clock grids s.pairwise_stages
      rw [← agenda, ← hlater] at hchain
      cases hr : rest ++ later with
      | nil => rfl
      | cons r more =>
        rw [hr] at hchain hlater
        have hlt : stage.number < r.number :=
          (List.isChain_cons_cons.mp hchain.right_of_append).1
        have hmem : r ∈ s.agenda clock grids := by
          rw [← hlater]
          exact List.mem_append_right _ (List.mem_cons_of_mem _ List.mem_cons_self)
        obtain ⟨stage', hstage', hmem⟩ := List.mem_flatMap.mp hmem
        have hle := number_le_stages hstage'
        rw [← number_of_mem_asks hmem, ← hn] at hle
        exact absurd hlt (Nat.not_lt.mpr hle)
    rw [hend, agenda, stages_eq, List.flatMap_append, List.flatMap_singleton, asks,
      ← List.append_assoc] at hlater
    exact ⟨_, List.prefix_rfl, (List.append_inj' hlater rfl).1⟩

end Stepper

end MethodOfLines
