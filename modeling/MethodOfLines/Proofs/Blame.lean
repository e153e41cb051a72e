import MethodOfLines.Proofs.Stops

/-!
# Proofs/Blame — where the error of a step comes from

An error that the issuing side is given has its place in the pool (`Machine.Blames`): a worker has
answered with it, or a worker is gone and this is reported against a grid of its stream.  Once there
is an error nothing more is asked for, so whoever is to blame stays where it is, and the error can
be explained at the end of the run as it could when it was given (`Machine.accounted_run`).

A step fails with such an error or because a launch was refused (`Stepper.refusal_or_blames`).
-/

namespace MethodOfLines

variable {σ α : Type}

/-- The kernel a request is named after. -/
def Request.kernel : Request α → String
  | .submit _ call _ => call.kernel
  | .fence stage => stage.kernelName

/-! ## A worker that answered with an error -/

namespace Worker

variable [Scalar α] (ops : Operators σ α)

theorem tidy_after (turns : List (Turn σ α)) :
    ∀ {w : Worker α}, w.Tidy → (w.after ops turns).Tidy := by
  induction turns with
  | nil => exact fun h => h
  | cons x turns ih => exact fun h => ih (tidy_perform ops h _ _ _)

omit [Scalar α] in
theorem status_of_failed {w : Worker α} (h : w.Tidy) {e : StepError} (hf : w.failed = some e) :
    w.status = .failed e := by
  refine status_eq_failed.mpr ⟨Bool.eq_false_iff.mpr fun hl => ?_, hf⟩
  cases (h hl).symm.trans hf

end Worker

/-- **A worker that answered with an error failed with it** in its turns. -/
theorem Lane.Recalls.status_of_reply [Scalar α] {ops : Operators σ α} {origin : Worker α}
    {before current : List (Nat × Op α)} {past turns : List (Turn σ α)} {lane : Lane α}
    (h : lane.Recalls ops origin before current past turns) (ht : origin.Tidy) {e : StepError}
    (hr : lane.reply = some (some e)) : (origin.after ops (past ++ turns)).status = .failed e := by
  rcases h.worker with ⟨-, hj⟩ | ⟨-, hr', -⟩
  · rw [hr] at hj
    cases hj
  · exact Worker.status_of_failed (Worker.tidy_after ops _ ht)
      (Option.some.inj (hr'.symm.trans hr))

namespace Machine

/-! ## Who is to blame -/

/-- **Who is to blame for an error**: a worker that answered with it; or a worker that is gone,
which is reported in the words of a request, against a grid that its stream `serves`. -/
inductive Blames (requests : List (Request α)) (serves : StreamIndex → GridId → Prop)
    (m : Machine σ α) : StepError → Prop where
  | answered {lane e} (hmem : lane ∈ m.lanes) (hr : lane.reply = some (some e)) :
      Blames requests serves m e
  | gone {lane request id} (hmem : lane ∈ m.lanes) (hl : lane.stream.worker.lost = true)
      (hrequest : request ∈ requests) (hid : serves lane.stream.index id) :
      Blames requests serves m (.dispatch
        ⟨request.kernel, request.number, id, .streamLost lane.stream.index⟩)

/-- **A machine whose errors are accounted for.**  Every stream was last used for a grid it serves,
and somebody is to blame for every error given. -/
structure Accounted (requests : List (Request α)) (serves : StreamIndex → GridId → Prop)
    (m : Machine σ α) : Prop where
  noted : ∀ lane ∈ m.lanes, serves lane.stream.index lane.stream.lastGrid
  blamed : ∀ {e}, .error e ∈ m.results → m.Blames requests serves e

variable [Scalar α] {ops : Operators σ α} {origin : StreamIndex → Worker α}
  {home : Nat → StreamIndex} {requests : List (Request α)} {serves : StreamIndex → GridId → Prop}
  {before current : List (Request α)} {m m' : Machine σ α}

/-! ## One move -/

theorem lastGrid_of_advance? {lane lane' : Lane α} {memory memory' : σ}
    {performed : Option (Nat × Op α)}
    (h : lane.advance? ops memory = some (lane', memory', performed)) :
    lane'.stream.lastGrid = lane.stream.lastGrid := by
  rcases Lane.performed_of_advance? h with ⟨_, -, hst, -⟩ | ⟨_, _, _, -, hst, -⟩ <;> rw [hst]
  rfl

/-- **Whoever is to blame does not move**: it has answered and has nothing left to do, or is
gone. -/
theorem Blames.of_worker? (h : m.Follows ops origin home requests before current) {e : StepError}
    (he : m.Blames requests serves e) {s : StreamIndex} (hmove : m.worker? ops s = some m') :
    m'.Blames requests serves e := by
  obtain ⟨lane, lane', after, performed, hlane, hadv, rfl⟩ := worker?_cases hmove
  obtain ⟨hmem, rfl⟩ := mem_of_lane? hlane
  obtain ⟨hlost, message, queue, hqueue, -⟩ := Lane.advance?_cases ops hadv
  have hstays : ∀ old ∈ m.lanes, old.queue = [] → old ∈ m.lanes.map fun old =>
      if old.stream.index = lane.stream.index then lane' else old := by
    intro old hold hq
    refine List.mem_map.mpr ⟨old, hold, if_neg fun hi => ?_⟩
    rw [eq_of_index h.sound.nodup hold hmem hi, hqueue] at hq
    cases hq
  cases he with
  | @answered old _ hold hr =>
    obtain ⟨past, turns, hrec, -⟩ := h.lanes old hold
    rcases hrec.worker with ⟨-, hj⟩ | ⟨-, -, hq⟩
    · rw [hr] at hj
      cases hj
    · exact .answered (hstays old hold hq) hr
  | @gone old request id hold hl hrequest hid =>
    exact .gone (hstays old hold ((h.sound.tidy old hold).2 hl)) hl hrequest hid

theorem accounted_worker? (h : m.Follows ops origin home requests before current)
    (ha : m.Accounted requests serves) {s : StreamIndex} (hmove : m.worker? ops s = some m') :
    m'.Accounted requests serves := by
  have hblames : ∀ e, m.Blames requests serves e → m'.Blames requests serves e :=
    fun e he => he.of_worker? h hmove
  obtain ⟨lane, lane', after, performed, hlane, hadv, rfl⟩ := worker?_cases hmove
  obtain ⟨hmem, rfl⟩ := mem_of_lane? hlane
  refine ⟨forall_replace (fun _ _ _ => ?_) fun old hold _ => ha.noted old hold,
    fun he => hblames _ (ha.blamed he)⟩
  rw [Lane.index_of_advance? hadv, lastGrid_of_advance? hadv]
  exact ha.noted lane hmem

/-- An operation sent to a worker that is gone is reported against its own grid. -/
theorem accounted_posted
    (hb : ∀ {b call op}, .submit b call op ∈ requests → serves b.stream b.descriptor.id)
    (h : m.Follows ops origin home requests before current) (ha : m.Accounted requests serves)
    (hw : m.waiting = none) {b : Binding α} {call : StageCall α} {op : Op α}
    {rest : List (Request α)} (hp : m.pending = .submit b call op :: rest) :
    (m.posted .stop b call op rest).Accounted requests serves := by
  have hout : m.outstanding = .submit b call op :: rest := (outstanding_of_free hw).trans hp
  have hmem : .submit b call op ∈ requests := by
    rw [(h.answers.going hout).2]
    exact List.mem_append_right _ List.mem_cons_self
  refine ⟨forall_replace (fun lane _ hi => ?_) fun lane hlane _ => ha.noted lane hlane,
    fun he => ?_⟩
  · rw [stream_send]
    exact hi.symm ▸ hb hmem
  · rcases List.mem_append.mp he with he | he
    · exact absurd he (h.answers.no_error hout)
    · obtain ⟨lane, hlane, hi, ⟨-, hsent⟩ | ⟨hl, hsent⟩⟩ := sent_cases (h.bound hmem) call
      · rw [hsent] at he
        cases List.mem_singleton.mp he
      · rw [hsent] at he
        obtain rfl := Except.error.inj (List.mem_singleton.mp he)
        have hlane' : (lane.note b.descriptor.id).send (.work b.slot op)
            ∈ (m.posted .stop b call op rest).lanes := List.mem_map.mpr ⟨lane, hlane, if_pos hi⟩
        have hindex := (index_note_send lane b.descriptor.id (.work b.slot op)).trans hi
        have hblames := Blames.gone hlane' (by rw [stream_send]; exact hl) hmem (hindex ▸ hb hmem)
        rwa [hindex] at hblames

/-- An error found at the end of a stage was answered by a worker, or says that one is gone. -/
theorem accounted_collected (h : m.Follows ops origin home requests before current)
    (ha : m.Accounted requests serves) {stage : Stage α} (hw : m.waiting = some stage)
    {answer : Except StepError Unit} (hc : m.collected? stage = some answer) :
    (m.answered .stop m.pending answer).Accounted requests serves := by
  have hout := outstanding_of_waiting hw
  refine ⟨ha.noted, fun {e} he => ?_⟩
  rcases List.mem_append.mp he with he | he
  · exact absurd he (h.answers.no_error hout)
  · obtain ⟨answers, hmap, hresult⟩ := collected?_cases hc
    obtain ⟨reply, hreply, rfl⟩ := List.exists_of_findSome?_eq_some
      (StepError.result_eq_error.mp (hresult.symm.trans (List.mem_singleton.mp he).symm))
    obtain ⟨lane, hmem, hlane⟩ := List.mem_map.mp (hmap ▸ List.mem_map_of_mem hreply)
    rcases Lane.answer?_cases hlane with hr | ⟨hl, hanswer⟩
    · exact .answered hmem hr
    · rw [Stream.answer, if_pos hl] at hanswer
      have hrequest : .fence stage ∈ requests := by
        rw [(h.answers.going hout).2]
        exact List.mem_append_right _ List.mem_cons_self
      have hmem' : lane ∈ (m.answered .stop m.pending answer).lanes := hmem
      have hblames := Blames.gone hmem' hl hrequest (ha.noted lane hmem)
      rwa [Option.some.inj hanswer]

/-! ## Along a schedule -/

/-- **Every move leaves the errors accounted for.** -/
theorem accounted_of_move?
    (hb : ∀ {b call op}, .submit b call op ∈ requests → serves b.stream b.descriptor.id)
    (h : m.Follows ops origin home requests before current) (ha : m.Accounted requests serves)
    {actor : Actor} (hmove : m.move? ops .stop actor = some m') : m'.Accounted requests serves := by
  cases actor with
  | worker s => exact accounted_worker? h ha hmove
  | issuer =>
    rcases issuer?_cases hmove with ⟨b, call, op, rest, hw, hp, rfl⟩ | ⟨stage, rest, hw, hp, rfl⟩ |
      ⟨stage, s, others, hw, hu, rfl⟩ | ⟨stage, answer, hw, hu, hc, rfl⟩
    · exact accounted_posted hb h ha hw hp
    · refine ⟨fun lane hmem => ?_, fun he =>
        absurd he (h.answers.no_error ((outstanding_of_free hw).trans hp))⟩
      obtain ⟨old, hold, rfl⟩ := List.mem_map.mp hmem
      exact ha.noted old hold
    · refine ⟨forall_replace (fun lane hmem _ => ?_) fun lane hmem _ => ha.noted lane hmem,
        fun he => absurd he (h.answers.no_error (outstanding_of_waiting hw))⟩
      rw [stream_send]
      exact ha.noted lane hmem
    · exact accounted_collected h ha hw hc

theorem accounted_run (ho : Request.Orderly home requests)
    (hb : ∀ {b call op}, .submit b call op ∈ requests → serves b.stream b.descriptor.id)
    (h : m.Follows ops origin home requests before current) (ha : m.Accounted requests serves)
    (schedule : Schedule) : (m.run ops .stop schedule).Accounted requests serves :=
  (run_invariant (I := fun m => (∃ before current,
      m.Follows ops origin home requests before current) ∧ m.Accounted requests serves)
    (fun ⟨⟨_, _, h⟩, ha⟩ hmove => ⟨follows_of_move? ho h hmove, accounted_of_move? hb h ha hmove⟩)
    ⟨⟨before, current, h⟩, ha⟩ schedule).2

end Machine

/-! ## The error of a step -/

namespace Stepper

variable [Scalar α] {s : Stepper σ α} {clock : Clock α} {grids : List (Grid α)} {memory : σ}

/-- A stream serves the grids of the list that are bound to it. -/
def Serves (s : Stepper σ α) (grids : List (Grid α)) (t : StreamIndex) (id : GridId) : Prop :=
  (∃ g ∈ grids, g.id = id) ∧ streamFor id s.streams = t

theorem serves_bind {e : Nat × Grid α} (he : e ∈ Pool.slots grids) :
    s.Serves grids (Pool.bind s.streams e).stream e.2.id :=
  ⟨⟨e.2, Pool.mem_of_mem_slots he, rfl⟩, rfl⟩

/-- A request is made in the words of a stage. -/
theorem exists_stage_of_mem_requests {r : Request α} (h : r ∈ s.requests clock grids memory) :
    ∃ stage ∈ s.plan.stages, stage.number = r.number ∧ stage.kernelName = r.kernel := by
  obtain ⟨stage, hstage, hmem⟩ :=
    List.mem_flatMap.mp ((requests_prefix_agenda s clock grids memory).subset h)
  refine ⟨stage, hstage, ?_⟩
  rcases mem_asks hmem with rfl | ⟨e, -, op, rfl, -⟩ <;> exact ⟨rfl, rfl⟩

/-- **The errors of a step are accounted for**, under every schedule. -/
theorem accounted_machine (s : Stepper σ α) (clock : Clock α) (grids : List (Grid α)) (memory : σ)
    (schedule : Schedule) : (s.machine clock grids memory schedule).Accounted
      (s.requests clock grids memory) (s.Serves grids) := by
  refine Machine.accounted_run (s.orderly_requests clock grids memory) (fun hmem => ?_)
    (Machine.follows_start s.streams grids memory stream_mem_indices) ⟨fun lane hmem => ?_,
      fun he => absurd he List.not_mem_nil⟩ schedule
  · obtain ⟨stage, -, e, he, rfl, -, -⟩ := mem_requests hmem
    exact serves_bind he
  · -- a new stream is noted for the first of its grids
    obtain ⟨st, hst, rfl⟩ := List.mem_map.mp hmem
    obtain ⟨t, ht, rfl⟩ := List.mem_map.mp hst
    obtain ⟨b, hb, rfl⟩ := Stream.mem_indices.mp ht
    obtain ⟨e, he, rfl⟩ := List.mem_map.mp hb
    have hne : (Pool.slots grids).filter (fun e' => streamFor e'.2.id s.streams
        = (Pool.bind s.streams e).stream) ≠ [] :=
      List.ne_nil_of_mem (List.mem_filter.mpr ⟨he, decide_eq_true rfl⟩)
    obtain ⟨first, rest, hfirst⟩ := List.exists_cons_of_ne_nil hne
    have hmem : first ∈ first :: rest := List.mem_cons_self
    rw [← hfirst] at hmem
    obtain ⟨hslot, hstream⟩ := List.mem_filter.mp hmem
    have hserves := serves_bind (s := s) hslot
    rw [show (Pool.bind s.streams first).stream = (Pool.bind s.streams e).stream from
      of_decide_eq_true hstream] at hserves
    change s.Serves grids _ ((((Pool.slots grids).filter fun e' => streamFor e'.2.id s.streams
      = (Pool.bind s.streams e).stream).head?.map (·.2.id)).getD 0)
    rw [hfirst]
    exact hserves

/-- **A step fails because a launch was refused**, or with an error that somebody is to blame
for. -/
theorem refusal_or_blames (hp : ¬ s.poisoned = true) {schedule : Schedule} {a : Advance σ α}
    (h : s.stepUnder clock grids memory schedule = some a) {e : StepError}
    (he : a.result = .error e) :
    (∃ error, e = .dispatch error ∧ Command.refusal?
        (s.plan.stages.flatMap (s.stageCommands clock grids)) = some error)
      ∨ (s.machine clock grids memory schedule).Blames (s.requests clock grids memory)
        (s.Serves grids) e := by
  rw [stepUnder_eq hp, Option.ite_none_right_eq_some] at h
  obtain ⟨-, ha⟩ := h
  obtain rfl := Option.some.inj ha
  rcases s.conclude_cases clock grids memory (s.machine clock grids memory schedule).results
    (s.machine clock grids memory schedule).pool with ⟨p, -, hend⟩ | ⟨e', p, hr, hend⟩
  · rw [hend] at he
    cases he
  · rw [hend] at he
    obtain rfl := Except.error.inj he
    rcases Progress.replay_error (congrArg Prod.fst hr) with hmem | ⟨error, rfl, hrefusal, -⟩
    · exact .inr ((s.accounted_machine clock grids memory schedule).blamed hmem)
    · exact .inl ⟨error, rfl, hrefusal⟩

end Stepper

end MethodOfLines
