import Mathlib
import MethodOfLines.Operator.Rates
import MethodOfLines.Proofs.Evaluations
import MethodOfLines.Proofs.Stages
import MethodOfLines.Proofs.Success

/-!
# Proofs/Budget — a budget that all streams spend from

A right-hand side with a budget counts its calls, whichever streams make them, and fails beyond a
limit.  Which evaluation is the first beyond the limit is up to the schedule.  Two things are not:
something is wrong on a stream if and only if the limit has been passed (`Machine.Spends`), and a
stage asks for as many evaluations as there are grids (`Proofs/Stages`).  So a step fails at the
fence of the stage in which the limit is passed (`Stepper.Ends.of_spending`), and a run is as long
as the budget lasts (`Run.Continues.of_spending`).
-/

namespace MethodOfLines

variable {σ α : Type}

/-! ## Calls that are counted -/

/-- **A budget of evaluations**, with its account in the memory of the collaborators. -/
structure Budget (σ : Type) where
  spent : σ → Nat
  limit : Nat
  /-- Why an evaluation beyond the limit fails. -/
  reason : EvalError

variable [Scalar α] {budget : Budget σ}

/-- **Collaborators that spend a budget on a grid**: every evaluation is counted, and succeeds if
and only if it is within the limit; the hooks succeed and leave the account alone. -/
structure Operators.Budgeted (ops : Operators σ α) (budget : Budget σ) (g : Grid α) : Prop where
  counted : ∀ (ctx : Context α) (x out : Vector α (g.functions.points * g.functions.fields))
    (memory : σ), budget.spent (ops.rhs.evaluate ctx x out memory).shared = budget.spent memory + 1
  within : ∀ ctx : Context α, ctx.grid = g.descriptor → ctx.fields = g.functions.fields →
    ∀ (x out : Vector α (g.functions.points * g.functions.fields)) (memory : σ),
      budget.spent memory < budget.limit →
        (ops.rhs.evaluate ctx x out memory).outcome = .done
          ∧ (ops.checkFinite = true → MethodOfLines.checkFinite ctx.points
              (ops.rhs.evaluate ctx x out memory).buffer.toArray = .ok ())
  beyond : ∀ (ctx : Context α) (x out : Vector α (g.functions.points * g.functions.fields))
    (memory : σ), budget.limit ≤ budget.spent memory →
      (ops.rhs.evaluate ctx x out memory).outcome = .failed budget.reason
  hooks : ops.boundary.SucceedsOn g
  radiation : ∀ (ctx : Context α) (x rates : Vector α (g.functions.points * g.functions.fields))
    (memory : σ),
      budget.spent (ops.boundary.applyRadiation ctx x rates memory).shared = budget.spent memory
  apply : ∀ (ctx : Context α) (v : Vector α (g.functions.points * g.functions.fields)) (memory : σ),
    budget.spent (ops.boundary.apply ctx v memory).shared = budget.spent memory

theorem Operators.Budgeted.refills {ops : Operators σ α} {g g' : Grid α} (h : ops.Budgeted budget g)
    (hg : g.Refills g') : ops.Budgeted budget g' := by
  have hhooks := h.hooks.refills hg
  obtain ⟨buffers, rfl⟩ := hg
  exact ⟨h.counted, h.within, h.beyond, hhooks, h.radiation, h.apply⟩

/-- **What an operation of a row makes of a budget.**  Only evaluations are counted, and only those
beyond the limit fail. -/
theorem Binding.execute_of_budgeted {ops : Operators σ α} {b : Binding α} {g : Grid α}
    (hs : ops.Budgeted budget g) (hsize : g.functions.points = g.descriptor.points) (hg : b.Fits g)
    {blockSize : Nat} {policy : Descriptor α → BoundaryPolicy} {stage : Stage α}
    {call : StageCall α} {op : Op α} (hop : op ∈ b.row blockSize policy stage call) (memory : σ) :
    budget.spent (op.execute ops b.stream (some (.ofDescriptor b.descriptor)) g memory).memory
        = budget.spent memory + op.isRates.toNat
      ∧ (op.execute ops b.stream (some (.ofDescriptor b.descriptor)) g memory).verdict
        = if op.isRates = true ∧ budget.limit ≤ budget.spent memory then
            .failed (.rhsFailed g.id call.number budget.reason)
          else .done := by
  have hpair := g.functions.buffers.pair?_of_ne stage.rhsInput_ne_rhsOutput
  cases hr : op.isRates with
  | true =>
    obtain rfl := eq_rates_of_mem_row blockSize policy stage call hop hr
    have hcounted := hs.counted (Op.context b.stream call g)
      (g.functions.buffers.get stage.rhsInput) (g.functions.buffers.get stage.rhsOutput) memory
    simp only [Op.rates, Op.execute, Op.executeRhs, hpair, true_and]
    refine ⟨hcounted, ?_⟩
    by_cases hlimit : budget.limit ≤ budget.spent memory
    · rw [if_pos hlimit]
      simp only [hs.beyond _ _ _ memory hlimit]
      rfl
    · obtain ⟨hdone, hfinite⟩ := hs.within (Op.context b.stream call g) rfl rfl
        (g.functions.buffers.get stage.rhsInput) (g.functions.buffers.get stage.rhsOutput) memory
        (Nat.lt_of_not_le hlimit)
      rw [if_neg hlimit]
      simp only [hdone]
      cases hc : ops.checkFinite with
      | false => rfl
      | true => simp only [hfinite hc]
  | false =>
    refine ⟨?_, verdict_of_hooks hs.hooks hsize hg hop hr memory⟩
    rcases cases_of_mem_row blockSize policy stage call hop with
      rfl | rfl | ⟨work, hwork, rfl⟩ | rfl
    · cases hr
    · simp only [Op.radiation, Op.execute, Op.executeRadiation, hpair]
      exact hs.radiation ..
    · simp only [Op.kernel, Op.execute, executeLaunch_eq hwork hg]
      rfl
    · exact hs.apply ..

/-! ## Machines that spend -/

namespace Machine

variable {ops : Operators σ α} {d : Discipline} {m m' : Machine σ α}

omit [Scalar α] in
/-- The issuing side makes no trouble. -/
theorem Troubled.of_issuer? (ht : m'.Troubled) (hmove : m.issuer? d = some m') : m.Troubled := by
  obtain ⟨f, hlanes, -, hf⟩ := exists_map_of_issuer? hmove
  obtain ⟨_, hnew, htrouble⟩ := ht
  obtain ⟨lane, hmem, rfl⟩ := List.mem_map.mp (hlanes ▸ hnew)
  obtain ⟨hworker, hr | ⟨hr, -⟩⟩ := hf lane
  · rw [hworker, hr] at htrouble
    exact ⟨lane, hmem, htrouble⟩
  · rw [hworker, hr] at htrouble
    exact ⟨lane, hmem, .inl (htrouble.resolve_right fun hne => hne rfl)⟩

omit [Scalar α] in
theorem memory_of_issuer? (h : m.issuer? d = some m') : m'.memory = m.memory := by
  rcases issuer?_cases h with ⟨b, call, op, rest, -, -, rfl⟩ | ⟨stage, rest, -, -, rfl⟩ |
    ⟨stage, s, others, -, -, rfl⟩ | ⟨stage, answer, -, -, -, rfl⟩ <;> rfl

omit [Scalar α] in
/-- What some lane has after one was replaced, some lane had before, or the new one has it. -/
theorem exists_of_replace {lanes : List (Lane α)} {t : StreamIndex} {lane' : Lane α}
    {P : Lane α → Prop}
    (h : ∃ lane ∈ lanes.map fun old => if old.stream.index = t then lane' else old, P lane) :
    (∃ lane ∈ lanes, P lane) ∨ P lane' := by
  obtain ⟨_, hnew, hP⟩ := h
  obtain ⟨old, hold, rfl⟩ := List.mem_map.mp hnew
  split at hP
  · exact .inr hP
  · exact .inl ⟨old, hold, hP⟩

/-- **A worker makes trouble only by an operation that it carries out.**  Otherwise its move is not
on record. -/
theorem upcoming_or_idle {t : StreamIndex} (hmove : m.worker? ops t = some m') :
    (∃ lane slot op, m.Upcoming lane slot op
        ∧ m'.memory = (lane.stream.worker.perform ops slot op m.memory).2
        ∧ m'.performed = m.performed ++ [(slot, op)]
        ∧ ((lane.stream.worker.perform ops slot op m.memory).1.status ≠ .done → m'.Troubled)
        ∧ (m'.Troubled → m.Troubled
          ∨ (lane.stream.worker.perform ops slot op m.memory).1.status ≠ .done))
      ∨ m'.memory = m.memory ∧ m'.performed = m.performed ∧ (m'.Troubled → m.Troubled) := by
  obtain ⟨lane, lane', after, performed, hlane, hadv, rfl⟩ := worker?_cases hmove
  obtain ⟨hmem, rfl⟩ := mem_of_lane? hlane
  rcases Lane.performed_of_advance? hadv with
    ⟨_, -, hst, -, hr, rfl, rfl⟩ | ⟨slot, op, rest, hq, hst, hr, -, rfl, rfl⟩
  · -- a worker that answers well had nothing to answer for
    refine .inr ⟨rfl, List.append_nil _, fun ht =>
      (exists_of_replace ht).elim id fun htrouble => ?_⟩
    refine ⟨lane, hmem, .inl fun hs => ?_⟩
    obtain ⟨hl, hf⟩ := Worker.status_eq_done.mp hs
    rcases htrouble with hne | hne
    · exact hne (Worker.status_eq_done.mpr (by rw [hst]; exact ⟨hl, rfl⟩))
    · exact hne (by rw [hr, Option.join_some, hf])
  · by_cases hs : lane.stream.worker.status = .done
    · rw [if_pos hs]
      refine .inl ⟨lane, slot, op, ⟨hmem, ⟨rest, hq⟩, hs⟩, rfl, rfl, fun hne => ?_, fun ht => ?_⟩
      · exact ⟨lane', List.mem_map.mpr ⟨lane, hmem, if_pos rfl⟩, .inl (by rwa [hst])⟩
      · refine (exists_of_replace ht).elim .inl fun htrouble => ?_
        rw [hst, hr] at htrouble
        exact htrouble.symm.imp_left fun hne => ⟨lane, hmem, .inr hne⟩
    · rw [if_neg hs, Worker.perform_of_status_ne ops hs]
      exact .inr ⟨rfl, List.append_nil _, fun _ => ⟨lane, hmem, .inl hs⟩⟩

/-- **A machine that spends a budget**: its account is what it had at the `start` and the
evaluations since, and something is wrong if and only if the limit has been passed. -/
structure Spends (budget : Budget σ) (start : Nat) (m : Machine σ α) : Prop where
  count : budget.spent m.memory = start + ratesIn m.performed
  troubled_iff : m.Troubled ↔ budget.limit < budget.spent m.memory

variable {start : Nat}

omit [Scalar α] in
/-- A move that carries nothing out leaves the account. -/
theorem Spends.keep (h : m.Spends budget start) (hmemory : m'.memory = m.memory)
    (hperformed : m'.performed = m.performed) (htrouble : m'.Troubled ↔ m.Troubled) :
    m'.Spends budget start := by
  refine ⟨by rw [hmemory, hperformed, h.count], ?_⟩
  rw [hmemory, htrouble, h.troubled_iff]

omit [Scalar α] in
/-- **An operation is charged to the account**, and makes trouble if it is beyond the limit. -/
theorem Spends.charge (h : m.Spends budget start) {slot : Nat} {op : Op α}
    (hspent : budget.spent m'.memory = budget.spent m.memory + op.isRates.toNat)
    (hperformed : m'.performed = m.performed ++ [(slot, op)])
    (htrouble : m'.Troubled
      ↔ m.Troubled ∨ op.isRates = true ∧ budget.limit ≤ budget.spent m.memory) :
    m'.Spends budget start := by
  have hrates : ratesIn [(slot, op)] = op.isRates.toNat := by
    cases hop : op.isRates <;> simp [ratesIn, hop]
  refine ⟨by rw [hspent, hperformed, h.count, ratesIn_append, hrates, Nat.add_assoc], ?_⟩
  rw [htrouble, h.troubled_iff, hspent]
  cases op.isRates with
  | false => simp
  | true =>
    simp only [true_and, Bool.toNat_true]
    omega

end Machine

/-! ## Steps that spend -/

namespace Stepper

variable {s : Stepper σ α} {clock : Clock α} {grids : List (Grid α)} {memory : σ}
  {m m' : Machine σ α} {before current : List (Request α)} {a : Advance σ α}

/-- **Grids on which a stepper fails only for want of budget**: the collaborators spend the budget
on them, the buffers fit and no launch is refused. -/
structure Spending (s : Stepper σ α) (budget : Budget σ) (grids : List (Grid α)) : Prop where
  budgeted : ∀ g ∈ grids, s.operators.Budgeted budget g
  points : ∀ g ∈ grids, g.functions.points = g.descriptor.points
  launch : ∀ g ∈ grids, ¬ s.Refuses g

theorem Spending.twin (h : s.Spending budget grids) {s' : Stepper σ α} (hs : s.Twin s')
    {grids' : List (Grid α)} (hg : List.Forall₂ Grid.Refills grids grids') :
    s'.Spending budget grids' := by
  obtain ⟨hpoints, hlaunch⟩ := hs.fit_and_launch hg h.points h.launch
  obtain ⟨phase, metrics, rfl⟩ := hs
  exact ⟨List.forall_mem_of_forall₂ hg (fun hr h => h.refills hr) h.budgeted, hpoints, hlaunch⟩

/-- What an operation of a step makes of the budget, on some contents of its grid. -/
theorem Spending.execute (hs : s.Spending budget grids) {e : Nat × Grid α}
    (he : e ∈ Pool.slots grids) {g : Grid α} (hg : e.2.Refills g) {stage : Stage α} {op : Op α}
    (hop : op ∈ (Pool.bind s.streams e).row s.blockSize s.policyOf stage (callAt clock stage))
    (now : σ) :
    budget.spent (op.execute s.operators (Pool.bind s.streams e).stream
          (some (.ofDescriptor e.2.descriptor)) g now).memory
        = budget.spent now + op.isRates.toNat
      ∧ (op.execute s.operators (Pool.bind s.streams e).stream
          (some (.ofDescriptor e.2.descriptor)) g now).verdict
        = if op.isRates = true ∧ budget.limit ≤ budget.spent now then
            .failed (.rhsFailed e.2.id stage.number budget.reason)
          else .done := by
  have hmem : e.2 ∈ grids := Pool.mem_of_mem_slots he
  have hbudgeted := (hs.budgeted e.2 hmem).refills hg
  have hsize := hs.points e.2 hmem
  obtain ⟨buffers, rfl⟩ := hg
  exact Binding.execute_of_budgeted hbudgeted hsize ⟨rfl, rfl⟩ hop now

/-- **What a worker of a step makes of the budget** by the operation it is about to carry out. -/
theorem Spending.perform (hs : s.Spending budget grids)
    (h : m.Follows s.operators (Worker.fresh s.streams grids) (s.home grids)
      (s.requests clock grids memory) before current) {lane : Lane α} {slot : Nat} {op : Op α}
    (hup : m.Upcoming lane slot op) (now : σ) :
    budget.spent (lane.stream.worker.perform s.operators slot op now).2
        = budget.spent now + op.isRates.toNat
      ∧ ((lane.stream.worker.perform s.operators slot op now).1.status ≠ .done
        ↔ op.isRates = true ∧ budget.limit ≤ budget.spent now) := by
  have hdone := hup.status
  obtain ⟨stage, -, e, he, ht, rfl, ⟨g, hg, hrefills⟩, hx⟩ := exists_place_of_upcoming h hup
  rcases hx with rfl | ⟨hx, hparams⟩
  · rw [Op.sync, Worker.perform_sync _ hdone]
    exact ⟨rfl, iff_of_false (fun hne => hne hdone) fun hrates => by cases hrates.1⟩
  · obtain ⟨hspent, hverdict⟩ := hs.execute he hrefills hx now
    rw [show (Pool.bind s.streams e).stream = lane.stream.worker.stream from ht] at hspent hverdict
    rw [Worker.perform_work _ hdone hg (Binding.isWork_of_mem_row _ _ _ _ hx),
      Worker.status_settle hdone, hparams, hverdict]
    refine ⟨hspent, ?_⟩
    split
    · next hbeyond => exact iff_of_true (by simp) hbeyond
    · next hwithin => exact iff_of_false (fun hne => hne rfl) hwithin

/-- **A move of a step keeps the account.** -/
theorem Spending.spends_of_move? (hs : s.Spending budget grids)
    (h : m.Follows s.operators (Worker.fresh s.streams grids) (s.home grids)
      (s.requests clock grids memory) before current) {start : Nat} (hm : m.Spends budget start)
    {actor : Actor} (hmove : m.move? s.operators .stop actor = some m') :
    m'.Spends budget start := by
  have hstays : m.Troubled → m'.Troubled := fun ht => ht.of_move? h hmove
  cases actor with
  | issuer =>
    obtain ⟨_, -, hperformed, -⟩ := Machine.exists_map_of_issuer? hmove
    exact hm.keep (Machine.memory_of_issuer? hmove) hperformed
      ⟨fun ht => ht.of_issuer? hmove, hstays⟩
  | worker t =>
    rcases Machine.upcoming_or_idle hmove with
      ⟨lane, slot, op, hup, hmemory, hperformed, hnew, hold⟩ | ⟨hmemory, hperformed, hold⟩
    · obtain ⟨hspent, hstatus⟩ := hs.perform h hup m.memory
      rw [← hmemory] at hspent
      exact hm.charge hspent hperformed ⟨fun ht => (hold ht).imp_right hstatus.mp,
        fun ht => ht.elim hstays fun hbeyond => hnew (hstatus.mpr hbeyond)⟩
    · exact hm.keep hmemory hperformed ⟨hold, hstays⟩

/-- **Whatever the schedule, the account is kept**, and the budget has paid for the stages that are
over. -/
theorem Spending.exists_spends_machine (hs : s.Spending budget grids)
    (hstart : budget.spent memory ≤ budget.limit) (clock : Clock α) (schedule : Schedule) :
    ∃ before current, (s.machine clock grids memory schedule).Follows s.operators
          (Worker.fresh s.streams grids) (s.home grids) (s.requests clock grids memory)
          before current
      ∧ (s.machine clock grids memory schedule).Spends budget (budget.spent memory)
      ∧ budget.spent memory + ratesIn (Request.work before) ≤ budget.limit := by
  have ho := s.orderly_requests clock grids memory
  refine Machine.run_invariant (I := fun m => ∃ before current, m.Follows s.operators
      (Worker.fresh s.streams grids) (s.home grids) (s.requests clock grids memory) before current
      ∧ m.Spends budget (budget.spent memory)
      ∧ budget.spent memory + ratesIn (Request.work before) ≤ budget.limit) ?_
    ⟨[], [], Machine.follows_start s.streams grids memory stream_mem_indices, ⟨rfl, ?_⟩, hstart⟩
    schedule
  · rintro m m' actor ⟨before, current, h, hm, hpaid⟩ hmove
    have hm' := hs.spends_of_move? h hm hmove
    rcases Machine.before_of_move? ho h hmove with ⟨current', h'⟩ | ⟨before', h'⟩
    · exact ⟨before, current', h', hm', hpaid⟩
    · -- a fence has passed: all it asked for is done, and nothing is wrong
      refine ⟨before', [], h', hm', ?_⟩
      have hrates : ratesIn m'.performed = ratesIn (Request.work before') :=
        (h'.performed_perm ho).countP_eq _
      rw [← hrates, ← hm'.count]
      refine Nat.le_of_not_lt fun hlt => ?_
      obtain ⟨lane, hmem, htrouble⟩ := hm'.troubled_iff.mpr hlt
      obtain ⟨hdone, hreply⟩ := h'.status_of_passed lane hmem
      exact htrouble.elim (fun hne => hne hdone) fun hne => hne hreply
  · refine iff_of_false ?_ (Nat.not_lt.mpr hstart)
    rintro ⟨lane, hmem, htrouble⟩
    obtain ⟨hworker, -, hreply⟩ := Machine.lane_of_mem_start hmem
    rw [hworker, hreply] at htrouble
    exact htrouble.elim (fun hne => hne rfl) fun hne => hne rfl

/-- **What can have happened to a worker** of a step that fails only for want of budget. -/
theorem Spending.status_after (hs : s.Spending budget grids) {t : StreamIndex}
    {turns : List (Turn σ α)}
    (h : turns.map Turn.work <+: Request.workFor t (s.agenda clock grids)) :
    ((Worker.fresh s.streams grids t).after s.operators turns).status = .done
      ∨ ∃ g ∈ grids, ∃ n, ((Worker.fresh s.streams grids t).after s.operators turns).status
        = .failed (.rhsFailed g.id n budget.reason) := by
  refine status_after_agenda (Q := fun v => v = .done
    ∨ ∃ g ∈ grids, ∃ n, v = .failed (.rhsFailed g.id n budget.reason)) (.inl rfl)
    (fun stage _ e he op hop g memory hg => ?_) h
  rw [(hs.execute he hg hop memory).2]
  split
  · exact .inr ⟨e.2, Pool.mem_of_mem_slots he, stage.number, rfl⟩
  · exact .inl rfl

theorem Spending.lost_eq_false (hs : s.Spending budget grids)
    (h : m.Follows s.operators (Worker.fresh s.streams grids) (s.home grids)
      (s.requests clock grids memory) before current) :
    ∀ lane ∈ m.lanes, lane.stream.worker.lost = false := by
  intro lane hmem
  obtain ⟨past, turns, hrec, -⟩ := h.lanes lane hmem
  rw [hrec.lost_eq]
  refine Bool.eq_false_iff.mpr fun hl => ?_
  have hcrashed := Worker.status_eq_crashed.mpr hl
  rcases hs.status_after (hrec.isPrefix.trans (h.isPrefix_agenda _)) with hst | ⟨g, -, n, hst⟩
  · cases hcrashed.symm.trans hst
  · cases hcrashed.symm.trans hst

/-- **An error of the step is one of the right-hand side**, which a worker has answered with. -/
theorem Spending.exists_of_blames (hs : s.Spending budget grids)
    (h : m.Follows s.operators (Worker.fresh s.streams grids) (s.home grids)
      (s.requests clock grids memory) before current) {e : StepError}
    (hblames : m.Blames (s.requests clock grids memory) (s.Serves grids) e) :
    m.Troubled ∧ ∃ g ∈ grids, ∃ n, e = .rhsFailed g.id n budget.reason := by
  cases hblames with
  | @answered lane _ hmem hr =>
    obtain ⟨past, turns, hrec, -⟩ := h.lanes lane hmem
    have hfailed := hrec.status_of_reply (fun hl => by cases hl) hr
    refine ⟨⟨lane, hmem, .inr (by simp [hr])⟩, ?_⟩
    rcases hs.status_after (hrec.isPrefix.trans (h.isPrefix_agenda _)) with hst | ⟨g, hg, n, hst⟩
    · cases hfailed.symm.trans hst
    · exact ⟨g, hg, n, Verdict.failed.inj (hfailed.symm.trans hst)⟩
  | gone hmem hl _ _ =>
    rw [hs.lost_eq_false h _ hmem] at hl
    cases hl

/-- **Where a step runs out of budget.**  If it returns an error, it stopped at the fence of the
stage in which the limit was passed. -/
theorem Spending.exists_of_error (hs : s.Spending budget grids) {schedule : Schedule}
    (h : s.Ending clock grids memory before current (s.machine clock grids memory schedule))
    (hm : (s.machine clock grids memory schedule).Spends budget (budget.spent memory))
    {e : StepError} {p : Progress σ α} (he : (s.begin clock grids memory).replay
      (s.plan.stages.flatMap (s.stageCommands clock grids))
      (s.machine clock grids memory schedule).results = (.error e, p)) :
    ∃ i < s.plan.tableau.stages, ratesIn (Request.work before) = i * grids.length
      ∧ budget.limit < budget.spent memory + (i + 1) * grids.length
      ∧ ∃ g ∈ grids, e = .rhsFailed g.id (i + 1) budget.reason := by
  have hrefusal : Command.refusal? (s.plan.stages.flatMap (s.stageCommands clock grids)) = none :=
    Command.refusal?_flatMap_eq_none fun stage _ =>
      (refusal?_stageCommands_eq_none stage).mpr hs.launch
  have hmem : .error e ∈ (s.machine clock grids memory schedule).results := by
    rcases Progress.replay_error (congrArg Prod.fst he) with hmem | ⟨_, -, hsome, -⟩
    · exact hmem
    · cases hrefusal.symm.trans hsome
  obtain ⟨htrouble, g, hg, n, rfl⟩ := hs.exists_of_blames h.follows
    ((s.accounted_machine clock grids memory schedule).blamed hmem)
  obtain ⟨stage, rest, hreq, hstage⟩ := h.follows.exists_fence (hs.lost_eq_false h.follows) hmem
  have hagenda : s.requests clock grids memory = s.agenda clock grids :=
    (requests_flatMap_stageCommands s clock grids s.plan.stages).2 hrefusal
  obtain ⟨i, hi, hnumber, hbefore, hupto⟩ :=
    exists_ratesIn_of_fence (hagenda.symm.trans hreq) h.follows.closed h.follows.free
  obtain rfl : n = i + 1 := (Option.some.inj hstage).trans hnumber
  refine ⟨i, hi, hbefore, ?_, g, hg, rfl⟩
  have hle : ratesIn (s.machine clock grids memory schedule).performed
      ≤ ratesIn (Request.work (before ++ current)) :=
    (h.follows.performed_subperm (s.orderly_requests clock grids memory)).countP_le _
  have hlt := hm.troubled_iff.mp htrouble
  rw [hm.count] at hlt
  rw [hupto] at hle
  exact Nat.lt_of_lt_of_le hlt (Nat.add_le_add_left hle _)

/-- **A step succeeds if the budget lasts for it**, under every schedule, and takes one evaluation
per stage and grid from it.  Otherwise it fails in the stage in which the limit is passed. -/
theorem Ends.of_spending (h : s.Ends clock grids memory a) (hp : s.poisoned = false)
    (hs : s.Spending budget grids) (hstart : budget.spent memory ≤ budget.limit) :
    (budget.spent memory + s.plan.tableau.stages * grids.length ≤ budget.limit
        ∧ (∃ report, a.result = .ok report)
        ∧ budget.spent a.memory = budget.spent memory + s.plan.tableau.stages * grids.length
        ∧ List.Forall₂ Grid.Refills grids a.grids)
      ∨ budget.limit < budget.spent memory + s.plan.tableau.stages * grids.length
        ∧ ∃ g ∈ grids, a.result = .error (.rhsFailed g.id
          ((budget.limit - budget.spent memory) / grids.length + 1) budget.reason) := by
  obtain ⟨schedule, hfinished, rfl⟩ := h.exists_machine (by simp [hp])
  obtain ⟨before, current, hfollows, hspends, hpaid⟩ :=
    hs.exists_spends_machine hstart clock schedule
  have hending := ending_of_follows hfollows hfinished
  rcases s.conclude_cases clock grids memory (s.machine clock grids memory schedule).results
    (s.machine clock grids memory schedule).pool with ⟨p, -, hend⟩ | ⟨e, p, hr, hend⟩
  · obtain ⟨hmade, -⟩ := hending.agenda_of_ok (congrArg Advance.result hend)
    obtain rfl := hending.current_of_ok hmade
    have hrates : ratesIn (Request.work before) = s.plan.tableau.stages * grids.length := by
      rw [← List.append_nil before, hmade, agenda, ratesIn_stages, length_stages]
    have hperformed : ratesIn (s.machine clock grids memory schedule).performed
        = ratesIn (Request.work before) :=
      (hfollows.performed_perm (s.orderly_requests clock grids memory)).countP_eq _
    rw [hrates] at hpaid hperformed
    refine .inl ⟨hpaid, ⟨_, congrArg Advance.result hend⟩, ?_, ?_⟩
    · rw [hend, ← hperformed]
      exact hspends.count
    · rw [hend]
      exact hending.forall₂_refills
  · obtain ⟨i, hi, hbefore, hlimit, g, hg, rfl⟩ := hs.exists_of_error hending hspends hr
    rw [hbefore] at hpaid
    have hstages : (i + 1) * grids.length ≤ s.plan.tableau.stages * grids.length :=
      Nat.mul_le_mul_right _ hi
    have hstage : (budget.limit - budget.spent memory) / grids.length = i :=
      Nat.div_eq_of_lt_le (by omega) (by omega)
    refine .inr ⟨by omega, g, hg, ?_⟩
    rw [hend, hstage]
    rfl

end Stepper

/-! ## Runs that spend -/

namespace Budget

/-- **What a step of a run returns**, the `i`-th from where `left` evaluations are left, if a step
makes so many `calls`: the first steps are paid for, the next fails in the stage in which the budget
runs out, for one of the grids, and every later one because the stepper is poisoned. -/
structure Pays (budget : Budget σ) (ids : List GridId) (calls left i : Nat)
    (result : Except StepError (Report α)) : Prop where
  paid : i < left / calls → ∃ report, result = .ok report
  unpaid : i = left / calls → ∃ id ∈ ids,
    result = .error (.rhsFailed id (left % calls / ids.length + 1) budget.reason)
  later : left / calls < i → result = .error .poisoned

variable {ids : List GridId} {calls left i : Nat} {result : Except StepError (Report α)}

omit [Scalar α] in
theorem Pays.of_ok (hpos : 0 < calls) {report : Report α} (h : result = .ok report) :
    budget.Pays ids calls (calls + left) 0 result := by
  refine ⟨fun _ => ⟨report, h⟩, fun hi => ?_, fun hi => absurd hi (Nat.not_lt_zero _)⟩
  rw [Nat.add_div_left left hpos] at hi
  cases hi

omit [Scalar α] in
theorem Pays.succ (h : budget.Pays ids calls left i result) (hpos : 0 < calls) :
    budget.Pays ids calls (calls + left) (i + 1) result := by
  obtain ⟨hpaid, hunpaid, hlater⟩ := h
  rw [← Nat.add_mod_left calls left] at hunpaid
  refine ⟨fun hi => hpaid ?_, fun hi => hunpaid ?_, fun hi => hlater ?_⟩
  all_goals
    rw [Nat.add_div_left left hpos] at hi
    omega

omit [Scalar α] in
theorem Pays.of_error (hlt : left < calls) {id : GridId} (hid : id ∈ ids)
    (h : result = .error (.rhsFailed id (left / ids.length + 1) budget.reason)) :
    budget.Pays ids calls left 0 result := by
  refine ⟨fun hi => ?_, fun _ => ⟨id, hid, ?_⟩, fun hi => absurd hi (Nat.not_lt_zero _)⟩
  · rw [Nat.div_eq_of_lt hlt] at hi
    cases hi
  · rw [h, Nat.mod_eq_of_lt hlt]

omit [Scalar α] in
theorem Pays.of_poisoned (hlt : left < calls) (h : result = .error .poisoned) :
    budget.Pays ids calls left (i + 1) result := by
  refine ⟨fun hi => ?_, fun hi => ?_, fun _ => h⟩
  all_goals
    rw [Nat.div_eq_of_lt hlt] at hi
    cases hi

end Budget

namespace Run

variable {r : Run σ α} {l : List (Advance σ α)}

/-- A stepper that is poisoned stays so. -/
theorem Continues.of_poisoned (h : r.Continues l) :
    r.stepper.poisoned = true → ∀ a ∈ l, a.result = .error .poisoned := by
  induction h with
  | nil r => exact fun _ => List.forall_mem_nil _
  | @cons r a l ha _ ih =>
    intro hp
    obtain rfl := ha.of_poisoned hp
    exact List.forall_mem_cons.mpr ⟨rfl, ih hp⟩

/-- **A run is as long as the budget lasts**, under every schedule. -/
theorem Continues.of_spending (h : r.Continues l) :
    r.stepper.poisoned = false → r.stepper.Spending budget r.grids → r.grids ≠ [] →
      ∀ {left : Nat}, budget.spent r.memory + left = budget.limit →
        ∀ {i : Nat} {a : Advance σ α}, l[i]? = some a →
          budget.Pays (r.grids.map Grid.id) (r.stepper.plan.tableau.stages * r.grids.length) left i
            a.result := by
  induction h with
  | nil r => exact fun _ _ _ _ _ _ _ hi => by cases hi
  | @cons r a l ha hl ih =>
    intro hp hs hne left hleft i b hi
    rcases ha.of_spending hp hs (by omega) with
      ⟨hle, ⟨report, hok⟩, hspent, hgrids⟩ | ⟨hlt, g, hg, herror⟩
    · -- the budget lasts: the rest of the run has one step less to pay for
      have hpos : 0 < r.stepper.plan.tableau.stages * r.grids.length :=
        Nat.mul_pos r.stepper.plan.tableau.stages_pos (List.length_pos_iff.mpr hne)
      obtain ⟨rest, rfl⟩ : ∃ rest, left = r.stepper.plan.tableau.stages * r.grids.length + rest :=
        Nat.exists_eq_add_of_le (by omega)
      cases i with
      | zero =>
        obtain rfl := Option.some.inj hi
        exact .of_ok hpos hok
      | succ i =>
        have htwin := ha.twin_of_ok hok
        have hne' : a.grids ≠ [] := by
          intro hnil
          rw [hnil] at hgrids
          exact hne (List.forall₂_nil_right_iff.mp hgrids)
        have hnext := ih (htwin.poisoned.trans hp) (hs.twin htwin hgrids) hne'
          (show budget.spent a.memory + rest = budget.limit by omega) hi
        rw [Grid.map_id_of_refills hgrids, htwin.plan_eq, ← hgrids.length_eq] at hnext
        exact hnext.succ hpos
    · -- it does not: the rest of the run is poisoned
      cases i with
      | zero =>
        obtain rfl := Option.some.inj hi
        refine .of_error (by omega) (List.mem_map_of_mem hg) ?_
        rw [herror, List.length_map, show budget.limit - budget.spent r.memory = left by omega]
      | succ i =>
        exact .of_poisoned (by omega)
          (hl.of_poisoned (ha.poisoned_of_error herror) b (List.mem_of_getElem? hi))

end Run

/-! ## The right-hand side that stops working -/

section Failing

variable {τ : Type}

/-- The first of two memories. -/
def Part.first : Part (σ × τ) σ := ⟨Prod.fst, fun x m => (x, m.2)⟩

/-- The second of two memories. -/
def Part.second : Part (σ × τ) τ := ⟨Prod.snd, fun x m => (m.1, x)⟩

/-- The budget of the right-hand side that stops working after `n` calls. -/
def Budget.ofCalls (n : Nat) : Budget (Nat × τ) :=
  ⟨Prod.fst, n, .executionFailed s!"deliberate failure after {n} successful calls"⟩

/-- **It spends its budget**, beside hooks with a memory of their own. -/
theorem Rhs.budgeted_failing (n : Nat) {boundary : Enforcer τ α} {search : Bool}
    (hfinite : search = true → Scalar.isFinite (0 : α) = true) {g : Grid α}
    (hb : boundary.SucceedsOn g) (overflow : Overflow) :
    Operators.Budgeted ⟨(Rhs.failing n).within .first, boundary.within .second, search, overflow⟩
      (.ofCalls n) g where
  counted ctx x out memory := by
    simp only [Rhs.within, Rhs.failing, Budget.ofCalls, Part.first]
    split <;> rfl
  within ctx _ _ x out memory hlt := by
    simp only [Rhs.within, Rhs.failing, Part.first, if_pos (show memory.1 < n from hlt), true_and]
    intro hsearch
    obtain hzero | hpos := Nat.eq_zero_or_pos ctx.points
    · exact if_pos hzero
    · refine (checkFinite_eq_ok_iff hpos).mpr fun y hy => ?_
      obtain ⟨_, -, rfl⟩ := Array.mem_map.mp (by rwa [Vector.toArray_map] at hy)
      exact hfinite hsearch
  beyond ctx x out memory hle := by
    simp only [Rhs.within, Rhs.failing, Part.first,
      if_neg (show ¬ memory.1 < n from Nat.not_lt.mpr hle)]
    rfl
  hooks := ⟨fun ctx hg hf x rates memory => hb.radiation ctx hg hf x rates memory.2,
    fun ctx hg hf v memory => hb.apply ctx hg hf v memory.2⟩
  radiation _ _ _ _ := rfl
  apply _ _ _ := rfl

end Failing

/-- **A shared budget is spent alike under every schedule.**  A new stepper over the right-hand side
that stops working after `n` calls, with hooks that do not fail, takes steps over grids that fit and
can be launched.  Its rates are zero, so a search of them finds nothing where zero is finite.

Every schedule of the next step can be continued to its end.  Whatever the schedules, with `calls`
evaluations in a step the first `n / calls` steps succeed; the next one fails in the stage in which
the budget runs out, and every later one because the stepper is poisoned. -/
theorem Run.spends_shared_budget {τ : Type} {c : Config (Nat × τ) α} {n : Nat}
    {boundary : Enforcer τ α} (hrhs : c.rhs = (Rhs.failing n).within .first)
    (hboundary : c.boundary = boundary.within .second)
    (hfinite : c.checkFinite = true → Scalar.isFinite (0 : α) = true)
    {s : Stepper (Nat × τ) α} {events : List (Event α)} (hs : Stepper.make c = .ok (s, events))
    {grids : List (Grid α)} (hne : grids ≠ [])
    (hpoints : ∀ g ∈ grids, g.functions.points = g.descriptor.points)
    (hlaunch : ∀ g ∈ grids, ¬ s.Refuses g) (hhooks : ∀ g ∈ grids, boundary.SucceedsOn g)
    (clock : Clock α) (memory : τ) :
    let r : Run (Nat × τ) α := ⟨s, clock, grids, (0, memory)⟩
    let calls := s.plan.tableau.stages * grids.length
    ∀ l, r.Continues l →
      (∀ schedule, ∃ more a, (r.after l).stepper.stepUnder (r.after l).clock (r.after l).grids
          (r.after l).memory (schedule ++ more) = some a ∧ r.Continues (l ++ [a]))
        ∧ ∀ i a, l[i]? = some a →
          (i < n / calls → ∃ report, a.result = .ok report)
            ∧ (i = n / calls → ∃ id ∈ grids.map Grid.id, a.result = .error
                (.rhsFailed id (n % calls / grids.length + 1)
                  (.executionFailed s!"deliberate failure after {n} successful calls")))
            ∧ (n / calls < i → a.result = .error .poisoned) := by
  intro r calls l hl
  obtain ⟨-, hp, -, hops⟩ := Stepper.of_make hs
  have hspending : s.Spending (.ofCalls n) grids := by
    refine ⟨fun g hg => ?_, hpoints, hlaunch⟩
    rw [hops, Config.operators, hrhs, hboundary]
    exact Rhs.budgeted_failing n hfinite (hhooks g hg) _
  refine ⟨hl.exists_concat, fun i a hi => ?_⟩
  obtain ⟨hpaid, hunpaid, hlater⟩ := hl.of_spending hp hspending hne (Nat.zero_add n) hi
  rw [List.length_map] at hunpaid
  exact ⟨hpaid, hunpaid, hlater⟩

/-- Nine calls, two grids on two streams and three stages: one step, and half of the second stage of
the next.  Which of the two grids is left without rates there is up to the schedule. -/
theorem Run.spends_shared_budget_nine :
    let c : Config (Nat × Unit) Rat :=
      { scheme := .heunThird, streamPoolSize := 2, blockSize := 1, checkFinite := true,
        rhs := (Rhs.failing 9).within .first, boundary := Enforcer.none.within .second }
    let s : Stepper (Nat × Unit) Rat := .heunThird c.rhs c.boundary
    let grids := [Grid.pair 0 .radiation 1 2, Grid.pair 3 .extrapolation 3 4]
    let r : Run (Nat × Unit) Rat := ⟨s, ⟨0, 1, 0⟩, grids, (0, ())⟩
    let a := s.step r.clock grids r.memory
    let b := a.stepper.step a.clock a.grids a.memory
    let schedule := (List.replicate 2 (List.replicate 11 Actor.issuer
      ++ List.replicate 5 (.worker 1) ++ List.replicate 5 (.worker 0) ++ [.issuer])).flatten
    let reason := EvalError.executionFailed "deliberate failure after 9 successful calls"
    (a.result.map fun _ => ()) = .ok () ∧ b.result = .error (.rhsFailed 3 2 reason)
      ∧ ∃ b', a.stepper.stepUnder a.clock a.grids a.memory schedule = some b'
        ∧ b'.result = .error (.rhsFailed 0 2 reason)
        ∧ (∀ d, r.Continues [a, b, d] → d.result = .error .poisoned)
        ∧ ∀ d, r.Continues [a, b', d] → d.result = .error .poisoned := by
  intro c s grids r a b schedule reason
  have hlaunch : ∀ g ∈ grids, ¬ s.Refuses g := by
    have hforGrid : ∀ g ∈ grids,
        (Launch.forGrid g.descriptor g.functions.fields s.blockSize).isOk = true := by
      decide +kernel
    rintro g hg ⟨fault, hfault⟩
    cases (congrArg Except.isOk hfault).symm.trans (hforGrid g hg)
  have hs : Stepper.make c = .ok (s, Stepper.building c s.plan none) := rfl
  have hpoints : ∀ g ∈ grids, g.functions.points = g.descriptor.points := by
    decide +kernel
  have hhooks : ∀ g ∈ grids, (Enforcer.none : Enforcer Unit Rat).SucceedsOn g :=
    fun _ _ => ⟨fun _ _ _ _ _ _ => rfl, fun _ _ _ _ _ => rfl⟩
  have hruns := spends_shared_budget (n := 9) rfl rfl (fun _ => rfl) hs (List.cons_ne_nil _ _)
    hpoints hlaunch hhooks r.clock ()
  have hpoisoned : ∀ {b d}, r.Continues [a, b, d] → d.result = .error .poisoned := fun hl =>
    ((hruns _ hl).2 2 _ rfl).2.2 (by decide)
  have hsome : ((a.stepper.stepUnder a.clock a.grids a.memory schedule).map fun b' =>
      b'.result.map fun _ => ()) = some (.error (.rhsFailed 0 2 reason)) := by decide +kernel
  obtain ⟨b', hb', hresult⟩ := Option.map_eq_some_iff.mp hsome
  have hb : (b.result.map fun _ => ()) = .error (.rhsFailed 3 2 reason) := by decide +kernel
  exact ⟨by decide +kernel, Advance.result_of_map hb, b', hb', Advance.result_of_map hresult,
    fun d => hpoisoned, fun d => hpoisoned⟩

end MethodOfLines
