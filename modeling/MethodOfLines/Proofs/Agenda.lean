import MethodOfLines.Proofs.Independence
import MethodOfLines.Proofs.Schedule
import MethodOfLines.Proofs.Turns

/-!
# Proofs/Agenda — what a step asks for, and how the answers end it

`Stepper.agenda` is what a step asks for if no launch is refused: for each stage the row of every
grid, and a fence.  What it does ask for is a beginning of that (`Stepper.requests_prefix_agenda`),
so its requests go through the stages in order (`Stepper.orderly_requests`).

While commands are answered, the phase names the stage that was entered last, and every request and
refusal after it belongs to that stage (`Command.Within`).  Hence a step that fails with an error of
the stage it was asking for stands in the phase of that stage (`Progress.phase_replay`); the count
and the step of the clock are not touched (`Progress.clock_replay`).
-/

namespace MethodOfLines

variable {σ α : Type}

/-! ## Requests of a step -/

/-- The requests for one grid in one stage. -/
def Binding.asks (blockSize : Nat) (policy : Descriptor α → BoundaryPolicy) (stage : Stage α)
    (call : StageCall α) (b : Binding α) : List (Request α) :=
  (Op.sync b.descriptor :: b.row blockSize policy stage call).map (.submit b call)

theorem Binding.reached_isPrefix (blockSize : Nat) (stage : Stage α) (bs : List (Binding α)) :
    reached blockSize stage bs <+: bs := by
  induction bs with
  | nil => exact List.prefix_rfl
  | cons b bs ih =>
    unfold reached
    split
    · exact List.cons_prefix_cons.mpr ⟨rfl, List.nil_prefix⟩
    · exact List.cons_prefix_cons.mpr ⟨rfl, ih⟩

namespace Command

variable (blockSize : Nat) (policy : Descriptor α → BoundaryPolicy) (stage : Stage α)
  (call : StageCall α) (bs : List (Binding α))

theorem refusal?_forStage :
    refusal? (forStage blockSize policy bs stage call)
      = bs.findSome? (·.refusal? blockSize stage) := by
  rw [forStage, List.cons_append, refusal?, refusal?_append, refusal?_flatMap_forGrid]
  exact Option.or_none

/-- **A stage asks for the rows of the grids it reaches**, and for the fence if it reaches all. -/
theorem requests_forStage :
    requests (forStage blockSize policy bs stage call)
      = (Binding.reached blockSize stage bs).flatMap (Binding.asks blockSize policy stage call)
        ++ if bs.findSome? (·.refusal? blockSize stage) = none then [.fence stage] else [] := by
  have hrows : requests (bs.flatMap fun b =>
        forGrid blockSize (policy b.descriptor) stage call b)
      = (Binding.reached blockSize stage bs).flatMap (Binding.asks blockSize policy stage call) :=
    requests_flatMap_forGrid ..
  have hrefusal := refusal?_flatMap_forGrid blockSize policy stage call bs
  rw [forStage, List.cons_append, requests]
  cases h : bs.findSome? (·.refusal? blockSize stage) with
  | none =>
    rw [requests_append (hrefusal.trans h), hrows, if_pos rfl]
    rfl
  | some error =>
    rw [requests_append_of_refusal (hrefusal.trans h), hrows, if_neg (by simp), List.append_nil]

end Command

namespace Stepper

variable [Scalar α] (s : Stepper σ α) (clock : Clock α) (grids : List (Grid α)) (memory : σ)

/-- The requests of one stage, if no launch is refused. -/
def asks (stage : Stage α) : List (Request α) :=
  ((Pool.slots grids).map (Pool.bind s.streams)).flatMap
      (Binding.asks s.blockSize s.policyOf stage (callAt clock stage))
    ++ [.fence stage]

/-- **What a step asks for**, if no launch is refused. -/
def agenda : List (Request α) := s.plan.stages.flatMap (s.asks clock grids)

/-- The stream of a slot. -/
def home (slot : Nat) : StreamIndex :=
  ((grids[slot]?).map fun g => streamFor g.id s.streams).getD 0

theorem requests_stageCommands_isPrefix (stage : Stage α) :
    Command.requests (s.stageCommands clock grids stage) <+: s.asks clock grids stage := by
  rw [stageCommands, Command.requests_forStage, asks]
  split
  · next h =>
    have hreached := Binding.reached_eq_self _ _ (List.findSome?_eq_none_iff.mp h)
    exact hreached.symm ▸ List.prefix_rfl
  · rw [List.append_nil]
    exact ((Binding.reached_isPrefix ..).flatMap _).trans (List.prefix_append _ _)

theorem requests_stageCommands {stage : Stage α}
    (h : Command.refusal? (s.stageCommands clock grids stage) = none) :
    Command.requests (s.stageCommands clock grids stage) = s.asks clock grids stage := by
  rw [stageCommands, Command.refusal?_forStage] at h
  rw [stageCommands, Command.requests_forStage, if_pos h, asks,
    Binding.reached_eq_self _ _ (List.findSome?_eq_none_iff.mp h)]

/-- **A step asks for a beginning of its agenda**, and for all of it unless a launch is refused. -/
theorem requests_flatMap_stageCommands (stages : List (Stage α)) :
    Command.requests (stages.flatMap (s.stageCommands clock grids))
        <+: stages.flatMap (s.asks clock grids)
      ∧ (Command.refusal? (stages.flatMap (s.stageCommands clock grids)) = none →
        Command.requests (stages.flatMap (s.stageCommands clock grids))
          = stages.flatMap (s.asks clock grids)) := by
  induction stages with
  | nil => exact ⟨List.prefix_rfl, fun _ => rfl⟩
  | cons stage stages ih =>
    rw [List.flatMap_cons, List.flatMap_cons, Command.refusal?_append]
    cases href : Command.refusal? (s.stageCommands clock grids stage) with
    | none =>
      rw [Command.requests_append href, requests_stageCommands s clock grids href,
        List.prefix_append_right_inj]
      exact ⟨ih.1, fun h => by rw [ih.2 h]⟩
    | some error =>
      rw [Command.requests_append_of_refusal href]
      exact ⟨(requests_stageCommands_isPrefix s clock grids stage).trans (List.prefix_append _ _),
        fun h => by cases h⟩

theorem requests_prefix_agenda : s.requests clock grids memory <+: s.agenda clock grids :=
  (requests_flatMap_stageCommands s clock grids s.plan.stages).1

variable {s clock grids memory}

/-! ### The agenda goes through the stages in order -/

/-- What a stage asks for before its fence. -/
theorem mem_asks {stage : Stage α} {r : Request α} (h : r ∈ s.asks clock grids stage) :
    r = .fence stage ∨ ∃ e ∈ Pool.slots grids, ∃ op,
      r = .submit (Pool.bind s.streams e) (callAt clock stage) op
        ∧ (op = .sync e.2.descriptor
          ∨ op ∈ (Pool.bind s.streams e).row s.blockSize s.policyOf stage
            (callAt clock stage)) := by
  rcases List.mem_append.mp h with h | h
  · obtain ⟨b, hb, h⟩ := List.mem_flatMap.mp h
    obtain ⟨e, he, rfl⟩ := List.mem_map.mp hb
    obtain ⟨op, hop, rfl⟩ := List.mem_map.mp h
    exact .inr ⟨e, he, op, rfl, List.mem_cons.mp hop⟩
  · exact .inl (List.mem_singleton.mp h)

theorem number_of_mem_asks {stage : Stage α} {r : Request α} (h : r ∈ s.asks clock grids stage) :
    r.number = stage.number := by
  rcases mem_asks h with rfl | ⟨e, -, op, rfl, -⟩ <;> rfl

end Stepper

/-- The operations of a row belong to its stage. -/
theorem Binding.number?_of_mem_row {b : Binding α} {blockSize : Nat}
    {policy : Descriptor α → BoundaryPolicy} {stage : Stage α} {call : StageCall α} {op : Op α}
    (h : op ∈ b.row blockSize policy stage call) : op.number? = some call.number := by
  rcases cases_of_mem_row blockSize policy stage call h with rfl | rfl | ⟨_, -, rfl⟩ | rfl <;> rfl

/-- Operations of one stage before its fence make a chain. -/
theorem Request.isChain_stage {stage : Stage α} {l : List (Request α)}
    (h : ∀ r ∈ l, ∃ b call op, r = .submit b call op ∧ call.number = stage.number) :
    (l ++ [Request.fence stage]).IsChain Next := by
  induction l with
  | nil => exact .singleton _
  | cons r l ih =>
    obtain ⟨b, call, op, rfl, hcall⟩ := h r List.mem_cons_self
    have hl := fun r' hr' => h r' (List.mem_cons_of_mem _ hr')
    refine List.isChain_cons.mpr ⟨fun r' hr' => ?_, ih hl⟩
    rcases List.mem_append.mp (List.mem_of_mem_head? hr') with hr' | hr'
    · obtain ⟨b', call', op', rfl, hcall'⟩ := hl r' hr'
      exact hcall.trans hcall'.symm
    · rw [List.mem_singleton.mp hr']
      exact hcall

namespace Stepper

variable [Scalar α] {s : Stepper σ α} {clock : Clock α} {grids : List (Grid α)} {memory : σ}

theorem isChain_asks (stage : Stage α) : (s.asks clock grids stage).IsChain Request.Next := by
  refine Request.isChain_stage fun r hr => ?_
  obtain ⟨b, -, hr⟩ := List.mem_flatMap.mp hr
  obtain ⟨op, -, rfl⟩ := List.mem_map.mp hr
  exact ⟨b, callAt clock stage, op, rfl, rfl⟩

theorem isChain_flatMap_asks (s : Stepper σ α) (clock : Clock α) (grids : List (Grid α))
    {stages : List (Stage α)} (h : stages.Pairwise (·.number < ·.number)) :
    (stages.flatMap (s.asks clock grids)).IsChain Request.Next := by
  induction stages with
  | nil => exact .nil
  | cons stage stages ih =>
    obtain ⟨hlt, hrest⟩ := List.pairwise_cons.mp h
    rw [List.flatMap_cons]
    refine List.isChain_append.mpr ⟨isChain_asks stage, ih hrest, fun r hr r' hr' => ?_⟩
    obtain ⟨stage', hstage', hmem⟩ := List.mem_flatMap.mp (List.mem_of_mem_head? hr')
    rw [asks, List.getLast?_append] at hr
    obtain rfl : .fence stage = r := by simpa using hr
    exact (hlt stage' hstage').trans_eq (number_of_mem_asks hmem).symm

theorem mem_requests {b : Binding α} {call : StageCall α} {op : Op α}
    (h : .submit b call op ∈ s.requests clock grids memory) :
    ∃ stage ∈ s.plan.stages, ∃ e ∈ Pool.slots grids, b = Pool.bind s.streams e
      ∧ call = callAt clock stage
      ∧ (op = .sync e.2.descriptor ∨ op ∈ b.row s.blockSize s.policyOf stage call) := by
  obtain ⟨stage, hstage, hmem⟩ :=
    List.mem_flatMap.mp ((requests_prefix_agenda s clock grids memory).subset h)
  rcases mem_asks hmem with hr | ⟨e, he, op', hr, hop⟩
  · cases hr
  · obtain ⟨rfl, rfl, rfl⟩ := Request.submit.inj hr
    exact ⟨stage, hstage, e, he, rfl, rfl, hop⟩

theorem home_of_mem {e : Nat × Grid α} (h : e ∈ Pool.slots grids) :
    s.home grids e.1 = (Pool.bind s.streams e).stream := by
  rw [home, Pool.mem_slots.mp h]
  rfl

/-- **The requests of a step go through its stages in order.** -/
theorem orderly_requests (s : Stepper σ α) (clock : Clock α) (grids : List (Grid α)) (memory : σ) :
    Request.Orderly (s.home grids) (s.requests clock grids memory) where
  chain := by
    obtain ⟨rest, hrest⟩ := requests_prefix_agenda s clock grids memory
    have hchain := isChain_flatMap_asks s clock grids s.pairwise_stages
    rw [← agenda, ← hrest] at hchain
    exact hchain.left_of_append
  home := by
    intro b call op h
    obtain ⟨stage, -, e, he, rfl, -, -⟩ := mem_requests h
    exact home_of_mem he
  number := by
    intro b call op n h hn
    obtain ⟨stage, -, e, -, -, -, rfl | hop⟩ := mem_requests h
    · cases hn
    · rw [Binding.number?_of_mem_row hop] at hn
      exact (Option.some.inj hn).symm

/-- Every operation is for a stream of the pool. -/
theorem stream_mem_indices {b : Binding α} {call : StageCall α} {op : Op α}
    (h : .submit b call op ∈ s.requests clock grids memory) :
    b.stream ∈ (Pool.spawn s.streams grids memory).indices := by
  obtain ⟨stage, -, e, he, rfl, -, -⟩ := mem_requests h
  rw [Pool.indices_spawn]
  exact Stream.mem_indices.mpr ⟨_, List.mem_map_of_mem he, rfl⟩

end Stepper

/-! ## The phase of a step -/

namespace Command

/-- A command within the stage of a number. -/
def InStage (n : Nat) : Command α → Prop
  | .enter .. => False
  | .report _ => True
  | .refuse error => error.stage = n
  | .ask request => request.number = n

/-- **Commands that belong to the stage entered last**, at first that of the given number. -/
def Within : Nat → List (Command α) → Prop
  | _, [] => True
  | _, .enter stage _ :: rest => Within stage.number rest
  | n, command :: rest => command.InStage n ∧ Within n rest

theorem within_append {n : Nat} {l l' : List (Command α)} (h : ∀ c ∈ l, c.InStage n)
    (h' : Within n l') : Within n (l ++ l') := by
  induction l with
  | nil => exact h'
  | cons c l ih =>
    have hc := h c List.mem_cons_self
    have hl := ih fun c' hc' => h c' (List.mem_cons_of_mem _ hc')
    cases c with
    | enter stage call => exact hc.elim
    | _ => exact ⟨hc, hl⟩

theorem inStage_launch {blockSize : Nat} {stage : Stage α} {call : StageCall α}
    (hcall : call.number = stage.number) {b : Binding α} {c : Command α}
    (h : c ∈ launch blockSize stage call b) : c.InStage stage.number := by
  unfold launch at h
  split at h
  · next e he =>
    obtain rfl := List.mem_singleton.mp h
    unfold Binding.launch at he
    cases hl : Launch.forGrid b.descriptor b.fields blockSize with
    | ok work => rw [hl] at he; cases he
    | error fault => rw [hl] at he; cases he; rfl
  · rcases List.mem_cons.mp h with rfl | h
    · trivial
    · obtain rfl := List.mem_singleton.mp h
      exact hcall

theorem inStage_forGrid {blockSize : Nat} {policy : BoundaryPolicy} {stage : Stage α}
    {call : StageCall α} (hcall : call.number = stage.number) {b : Binding α} {c : Command α}
    (h : c ∈ forGrid blockSize policy stage call b) : c.InStage stage.number := by
  -- everything but the launch is a request with this call
  have hsubmit : ∀ {p : Prop} [Decidable p] {op : Op α},
      c ∈ (if p then [submit b call op] else []) → c.InStage stage.number := by
    intro p _ op h
    split at h
    · obtain rfl := List.mem_singleton.mp h
      exact hcall
    · exact absurd h List.not_mem_nil
  simp only [forGrid, List.mem_append] at h
  rcases h with ((h | h) | h) | h
  · rcases List.mem_cons.mp h with rfl | h
    · exact hcall
    · obtain rfl := List.mem_singleton.mp h
      exact hcall
  · exact hsubmit h
  · exact inStage_launch hcall h
  · exact hsubmit h

end Command

namespace Stepper

variable [Scalar α]

/-- The commands of a step belong to the stages they enter. -/
theorem within_flatMap_stageCommands (s : Stepper σ α) (clock : Clock α) (grids : List (Grid α))
    (stages : List (Stage α)) :
    ∀ n, Command.Within n (stages.flatMap (s.stageCommands clock grids)) := by
  induction stages with
  | nil => exact fun _ => trivial
  | cons stage stages ih =>
    intro n
    rw [List.flatMap_cons, stageCommands, Command.forStage, List.cons_append, List.cons_append]
    refine Command.within_append (fun c hc => ?_) (ih stage.number)
    rcases List.mem_append.mp hc with hc | hc
    · obtain ⟨b, -, hc⟩ := List.mem_flatMap.mp hc
      exact Command.inStage_forGrid rfl hc
    · obtain rfl := List.mem_singleton.mp hc
      rfl

end Stepper

namespace Progress

/-- **Answers leave the count and the step of the clock alone.** -/
theorem clock_replay (commands : List (Command α)) :
    ∀ (answers : List (Except StepError Unit)) (p : Progress σ α),
      (replay commands answers p).2.clock.iteration = p.clock.iteration
        ∧ (replay commands answers p).2.clock.dt = p.clock.dt := by
  induction commands with
  | nil => exact fun _ _ => ⟨rfl, rfl⟩
  | cons command rest ih =>
    intro answers p
    cases command with
    | enter stage call => exact ih answers (p.enter stage call)
    | report event => exact ih answers (p.report event)
    | refuse error => exact ⟨rfl, rfl⟩
    | ask request =>
      rcases answers with _ | ⟨_ | _, answers⟩
      · exact ⟨rfl, rfl⟩
      · exact ⟨rfl, rfl⟩
      · exact ih answers { p with metrics := p.metrics.count request }

/-- **A step that fails stands in the phase of the stage its error names.** -/
theorem phase_replay {commands : List (Command α)} {e : StepError} :
    ∀ {n : Nat} {answers : List (Except StepError Unit)} {p : Progress σ α},
      Command.Within n commands →
      (∀ x ∈ (Command.requests commands).zip answers, ∀ e, x.2 = .error e →
        e.stage? = some x.1.number) →
      p.phase = .awaitingStage n → (replay commands answers p).1 = .error e →
      ∃ n, e.stage? = some n ∧ (replay commands answers p).2.phase = .awaitingStage n := by
  induction commands with
  | nil => exact fun _ _ _ h => by cases h
  | cons command rest ih =>
    intro n answers p hw ha hp h
    cases command with
    | enter stage call => exact ih hw ha rfl h
    | report event => exact ih hw.2 ha hp h
    | refuse error =>
      obtain rfl := Except.error.inj h
      exact ⟨n, congrArg some hw.1, hp⟩
    | ask request =>
      rcases answers with _ | ⟨e' | _, answers⟩
      · cases h
      · obtain rfl := Except.error.inj h
        exact ⟨n, hw.1 ▸ ha _ List.mem_cons_self e' rfl, hp⟩
      · exact ih (p := { p with metrics := p.metrics.count request }) hw.2
          (fun x hx => ha x (List.mem_cons_of_mem _ hx)) hp h

/-- **Commands that succeed refused nothing.** -/
theorem refusal?_of_replay {commands : List (Command α)} :
    ∀ {answers : List (Except StepError Unit)} {p : Progress σ α},
      (Command.requests commands).length ≤ answers.length →
      (replay commands answers p).1 = .ok () → Command.refusal? commands = none := by
  induction commands with
  | nil => exact fun _ _ => rfl
  | cons command rest ih =>
    intro answers p hl h
    cases command with
    | enter stage call => exact ih (p := p.enter stage call) hl h
    | report event => exact ih (p := p.report event) hl h
    | refuse error => cases h
    | ask request =>
      rcases answers with _ | ⟨_ | _, answers⟩
      · simp [Command.requests] at hl
      · cases h
      · exact ih (p := { p with metrics := p.metrics.count request })
          (Nat.le_of_succ_le_succ hl) h

end Progress

end MethodOfLines
