import MethodOfLines.Proofs.Remains

/-!
# Proofs/Scratch — a step reads no scratch buffer that it has not written

Beside the state a grid has three buffers, and what they hold when a step begins does not matter.
Before stage `i` a step **knows** the state and, from the second stage on, the output of the stage
before it and the running total (`Role.Known`).  Every operation reads known buffers only, and what
it writes is known once it is done; the rates have to be overwritten for that.  So the rows of all
stages, on two grids with the same state, end alike one after the other and leave the same states
(`Op.confined_rounds`).
-/

namespace MethodOfLines

variable {σ α : Type}

namespace Grid

/-- **Grids that share some buffers**: the second is the first with other contents, except in the
roles that are known. -/
def Shares (known : Role → Prop) (g g' : Grid α) : Prop :=
  ∃ b, g' = g.setBuffers b ∧ ∀ role, known role → b.get role = g.functions.buffers.get role

variable {known known' : Role → Prop} {g g' : Grid α}

theorem Shares.mono (h : g.Shares known g') (hk : ∀ role, known' role → known role) :
    g.Shares known' g' := by
  obtain ⟨b, hg, hb⟩ := h
  exact ⟨b, hg, fun role hr => hb role (hk role hr)⟩

theorem Shares.retains (h : g.Shares known g') (hs : known .state) : g.Retains g' := by
  obtain ⟨b, hg, hb⟩ := h
  exact ⟨b, hg, hb .state hs⟩

/-- A buffer written in both grids. -/
theorem shares_setBuffer {b : Buffers α (g.functions.points * g.functions.fields)}
    (hb : ∀ role, known role → b.get role = g.functions.buffers.get role) {role : Role}
    (hk : ∀ r, known' r → r = role ∨ known r)
    {v v' : Vector α (g.functions.points * g.functions.fields)} (hv : known' role → v' = v) :
    (g.setBuffer role v).Shares known' ((g.setBuffers b).setBuffer role v') := by
  refine ⟨b.set role v', rfl, fun r hr => ?_⟩
  change (b.set role v').get r = (g.functions.buffers.set role v).get r
  by_cases h : r = role
  · rw [h, Buffers.get_set_self, Buffers.get_set_self, hv (h ▸ hr)]
  · rw [Buffers.get_set_of_ne _ _ h, Buffers.get_set_of_ne _ _ h]
    exact hb r ((hk r hr).resolve_left h)

/-- A scratch buffer written in both grids, in any way. -/
theorem retains_setBuffers_setBuffer {b : Buffers α (g.functions.points * g.functions.fields)}
    (hb : b.get .state = g.functions.buffers.get .state) {role : Role} (h : role ≠ .state)
    (v v' : Vector α (g.functions.points * g.functions.fields)) :
    (g.setBuffer role v).Retains ((g.setBuffers b).setBuffer role v') :=
  ⟨b.set role v', rfl, ((b.get_set_of_ne v' h.symm).trans hb).trans
    (g.functions.buffers.get_set_of_ne v h.symm).symm⟩

end Grid

namespace Op

variable [Scalar α] (ops : Operators σ α)

/-- **Operations that end alike on two grids**, one after the other until one is not done, and leave
the same states, whatever is remembered. -/
def Tracks : List (Op α) → Grid α → Grid α → Prop
  | [], g, g' => g.Retains g'
  | op :: l, g, g' => g.Retains g' ∧ ∀ stream params memory memory',
    (op.execute ops stream params g memory).verdict
        = (op.execute ops stream params g' memory').verdict
      ∧ (op.execute ops stream params g memory).grid.Retains
        (op.execute ops stream params g' memory').grid
      ∧ ((op.execute ops stream params g memory).verdict = .done →
        Tracks l (op.execute ops stream params g memory).grid
          (op.execute ops stream params g' memory').grid)

/-- **Operations that see only what is known**: they end alike on grids that share it. -/
def Confined (known : Role → Prop) (l : List (Op α)) : Prop :=
  ∀ ⦃g g' : Grid α⦄, g.Shares known g' → Tracks ops l g g'

variable {ops} {known known' : Role → Prop} {stage : Stage α} {call : StageCall α}
  {l : List (Op α)} {g g' : Grid α}

theorem Tracks.retains (h : Tracks ops l g g') : g.Retains g' := by
  cases l with
  | nil => exact h
  | cons op l => exact h.1

/-- What ends alike does so up to any point. -/
theorem Tracks.of_append {l' : List (Op α)} :
    ∀ {l : List (Op α)} {g g' : Grid α}, Tracks ops (l ++ l') g g' → Tracks ops l g g'
  | [], _, _, h => h.retains
  | _ :: _, _, _, h => ⟨h.1, fun stream params memory memory' =>
      let ⟨hverdict, hgrid, hrest⟩ := h.2 stream params memory memory'
      ⟨hverdict, hgrid, fun hd => (hrest hd).of_append⟩⟩

theorem Confined.mono (h : Confined ops known l) (hk : ∀ role, known role → known' role) :
    Confined ops known' l := fun _ _ hg => h (hg.mono hk)

theorem confined_nil (hs : known .state) : Confined ops known [] := fun _ _ hg => hg.retains hs

theorem confined_sync (hs : known .state) (d : Descriptor α) (h : Confined ops known l) :
    Confined ops known (.sync d :: l) :=
  fun _ _ hg => ⟨hg.retains hs, fun _ _ _ _ => ⟨rfl, hg.retains hs, fun _ => h hg⟩⟩

/-- The verdict on rates, from how their evaluation ended and what it wrote. -/
def ratesVerdict (check : Bool) (wrap : EvalError → StepError) (points : Nat) (outcome : Outcome)
    (values : Array α) : Verdict :=
  match outcome, check with
  | .done, true =>
    match checkFinite points values with
    | .ok () => .done
    | .error reason => .failed (wrap reason)
  | outcome, _ => outcome.verdict wrap

theorem ratesVerdict_congr (check : Bool) (wrap : EvalError → StepError) (points : Nat)
    {o : Outcome} {v v' : Array α} (h : o = .done → v = v') :
    ratesVerdict check wrap points o v = ratesVerdict check wrap points o v' := by
  cases o with
  | done => rw [h rfl]
  | failed reason => cases check <;> rfl
  | crashed => cases check <;> rfl

theorem eq_done_of_ratesVerdict {check : Bool} {wrap : EvalError → StepError} {points : Nat}
    {o : Outcome} {v : Array α} (h : ratesVerdict check wrap points o v = .done) : o = .done := by
  cases o with
  | done => rfl
  | failed reason => cases check <;> cases h
  | crashed => cases check <;> cases h

/-- What the evaluation of rates does to a grid. -/
theorem execute_rates (ops : Operators σ α) (stage : Stage α) (call : StageCall α)
    (stream : StreamIndex) (params : Option (Params α)) (g : Grid α)
    (b : Buffers α (g.functions.points * g.functions.fields)) (memory : σ) :
    ∃ r, r = ops.rhs.evaluate (context stream call g) (b.get stage.rhsInput)
        (b.get stage.rhsOutput) memory
      ∧ ((rates stage call).execute ops stream params (g.setBuffers b) memory).verdict
        = ratesVerdict ops.checkFinite (.rhsFailed g.id call.number) g.descriptor.points r.outcome
          r.buffer.toArray
      ∧ ((rates stage call).execute ops stream params (g.setBuffers b) memory).grid
        = (g.setBuffers b).setBuffer stage.rhsOutput r.buffer := by
  refine ⟨_, rfl, ?_⟩
  simp only [rates, execute, executeRhs, pair?_setBuffers]
  exact ⟨rfl, rfl⟩

/-- **Rates read their input**, and are known once they are done. -/
theorem confined_rates (ho : ops.rhs.Overwrites) (hs : known .state) (hin : known stage.rhsInput)
    (h : Confined ops (fun r => known r ∨ r = stage.rhsOutput) l) :
    Confined ops known (.rates stage call :: l) := by
  rintro g _ ⟨b, rfl, hb⟩
  refine ⟨⟨b, rfl, hb _ hs⟩, fun stream params memory memory' => ?_⟩
  obtain ⟨r, hr, hverdict, hgrid⟩ :=
    execute_rates ops stage call stream params g g.functions.buffers memory
  obtain ⟨r', hr', hverdict', hgrid'⟩ := execute_rates ops stage call stream params g b memory'
  rw [hb _ hin] at hr'
  obtain ⟨houtcome, hbuffer⟩ : r.outcome = r'.outcome
      ∧ (r.outcome = .done → r.buffer = r'.buffer) := hr ▸ hr' ▸ ho ..
  change (execute ops stream params g memory _).verdict = _ at hverdict
  change (execute ops stream params g memory _).grid = g.setBuffer _ _ at hgrid
  rw [hverdict, hverdict', hgrid, hgrid', ← houtcome]
  refine ⟨ratesVerdict_congr _ _ _ fun hd => by rw [hbuffer hd], ?_, fun hd => h ?_⟩
  · exact Grid.retains_setBuffers_setBuffer (hb _ hs) (Role.stageOutput_ne_state _) _ _
  · refine Grid.shares_setBuffer hb (fun r hr => hr.symm) fun _ => ?_
    exact (hbuffer (eq_done_of_ratesVerdict hd)).symm

/-- **The correction of the rates reads the input and the rates.** -/
theorem confined_radiation (hf : ops.boundary.Functional) (hs : known .state)
    (hin : known stage.rhsInput) (hout : known stage.rhsOutput) (h : Confined ops known l) :
    Confined ops known (.radiation stage call :: l) := by
  rintro g _ ⟨b, rfl, hb⟩
  refine ⟨⟨b, rfl, hb _ hs⟩, fun stream params memory memory' => ?_⟩
  have hpair := pair?_setBuffers g stage g.functions.buffers
  have hpair' := pair?_setBuffers g stage b
  rw [hb _ hin, hb _ hout] at hpair'
  obtain ⟨houtcome, hbuffer⟩ := hf.radiation (context stream call g)
    (g.functions.buffers.get stage.rhsInput) (g.functions.buffers.get stage.rhsOutput) memory
    memory'
  change g.functions.buffers.pair? _ _ = _ at hpair
  have hshares : (g.setBuffer stage.rhsOutput _).Shares known ((g.setBuffers b).setBuffer _ _) :=
    Grid.shares_setBuffer hb (fun r hr => .inr hr) fun _ => hbuffer.symm
  simp only [radiation, execute, executeRadiation, hpair, hpair']
  exact ⟨congrArg _ houtcome, hshares.retains hs, fun _ => h hshares⟩

/-- **The correction of values reads its target.** -/
theorem confined_boundary (hf : ops.boundary.Functional) (hs : known .state)
    (ht : known stage.boundaryTarget) (h : Confined ops known l) :
    Confined ops known (.boundary stage call :: l) := by
  rintro g _ ⟨b, rfl, hb⟩
  refine ⟨⟨b, rfl, hb _ hs⟩, fun stream params memory memory' => ?_⟩
  obtain ⟨houtcome, hbuffer⟩ := hf.apply (context stream call g)
    (g.functions.buffers.get stage.boundaryTarget) memory memory'
  have hshares : (g.setBuffer stage.boundaryTarget _).Shares known
      ((g.setBuffers b).setBuffer _ _) :=
    Grid.shares_setBuffer hb (fun r hr => .inr hr) fun _ => hbuffer.symm
  have htarget : (g.setBuffers b).functions.buffer stage.boundaryTarget
      = g.functions.buffers.get stage.boundaryTarget := hb _ ht
  simp only [boundary, execute, executeBoundary, htarget]
  exact ⟨congrArg _ houtcome, hshares.retains hs, fun _ => h hshares⟩

end Op

/-! ## The kernels -/

/-- **What is known before stage `i`**: the state and, from the second stage on, the output of the
stage before it and, if kernels run, the running total. -/
def Role.Known (launches : Prop) : Nat → Role → Prop
  | 0, r => r = .state
  | i + 1, r => r = .state ∨ r = .stageOutput i ∨ (r = .total ∧ launches)

theorem Role.known_state {launches : Prop} : ∀ i, Role.Known launches i .state
  | 0 => rfl
  | _ + 1 => .inl rfl

/-- When a step begins, all it knows is the state. -/
theorem Grid.Retains.shares {g g' : Grid α} (h : g.Retains g') {launches : Prop} :
    g.Shares (Role.Known launches 0) g' := by
  obtain ⟨b, hg, hstate⟩ := h
  refine ⟨b, hg, fun role hr => ?_⟩
  obtain rfl : role = .state := hr
  exact hstate

namespace Tableau

variable [Scalar α] (t : Tableau α)

/-- **What is known after stage `i`**: the state, the output of the stage and, unless the stage is
the last, the running total if kernels run. -/
def Settled (launches : Prop) (i : Nat) (r : Role) : Prop :=
  r = .state ∨ r = .stageOutput i ∨ (r = .total ∧ launches ∧ i + 1 < t.stages)

variable {launches : Prop}

/-- The rates are evaluated from a buffer that is known. -/
theorem known_rhsInput : ∀ i, Role.Known launches i (t.stage i).rhsInput
  | 0 => rfl
  | _ + 1 => .inr (.inl rfl)

/-- The boundary is corrected in a buffer that is known then. -/
theorem settled_boundaryTarget (i : Nat) : t.Settled launches i (t.stage i).boundaryTarget := by
  rw [Stage.boundaryTarget]
  split
  · exact .inl rfl
  · exact .inr (.inl rfl)

variable {t} {i : Nat}

omit [Scalar α] in
/-- What is known after a stage is known before the next. -/
theorem settled_of_known (hi : i + 1 < t.stages) {r : Role}
    (hr : Role.Known launches (i + 1) r) : t.Settled launches i r := by
  rcases hr with rfl | rfl | ⟨rfl, hl⟩
  · exact .inl rfl
  · exact .inr (.inl rfl)
  · exact .inr (.inr ⟨rfl, hl, hi⟩)

omit [Scalar α] in
/-- Without kernels, what is known after a stage was known with its rates. -/
theorem known_of_settled (hl : ¬ launches) {r : Role} (hr : t.Settled launches i r) :
    Role.Known launches i r ∨ r = .stageOutput i := by
  rcases hr with rfl | rfl | ⟨-, hl', -⟩
  · exact .inl (Role.known_state i)
  · exact .inr rfl
  · exact absurd hl' hl

/-- **The first kernel does not read the running total**, and every kernel before the last writes
it. -/
theorem apply_congr (hi : i < t.stages) (dt : α) (c c' : Cell α) (hstate : c.state = c'.state)
    (hstage : c.stage = c'.stage) (htotal : 0 < i → c.total = c'.total) :
    (((t.stage i).kernel.scale dt).apply c).state = (((t.stage i).kernel.scale dt).apply c').state
      ∧ (((t.stage i).kernel.scale dt).apply c).stage
        = (((t.stage i).kernel.scale dt).apply c').stage
      ∧ (i + 1 < t.stages → (((t.stage i).kernel.scale dt).apply c).total
        = (((t.stage i).kernel.scale dt).apply c').total) := by
  obtain ⟨y, k, u⟩ := c
  obtain ⟨y', k', u'⟩ := c'
  obtain rfl : y = y' := hstate
  obtain rfl : k = k' := hstage
  simp only [stage, kernel]
  split
  · exact ⟨rfl, rfl, fun h => by omega⟩
  · split
    · exact ⟨rfl, rfl, fun _ => rfl⟩
    · obtain rfl : u = u' := htotal (by omega)
      exact ⟨rfl, rfl, fun _ => rfl⟩

/-- **A kernel sees only what is known.** -/
theorem get_mapCells_of_settled (hl : launches) (hi : i < t.stages) (dt : α) {n : Nat}
    {b b' : Buffers α n}
    (hb : ∀ r, Role.Known launches i r ∨ r = .stageOutput i → b'.get r = b.get r) {r : Role}
    (hr : t.Settled launches i r) :
    (b'.mapCells ((t.stage i).kernel.scale dt).apply (.stageOutput i)).get r
      = (b.mapCells ((t.stage i).kernel.scale dt).apply (.stageOutput i)).get r := by
  have hstate : b'.state = b.state := hb .state (.inl (Role.known_state i))
  have hstage : b'.get (.stageOutput i) = b.get (.stageOutput i) := hb _ (.inr rfl)
  have htotal : 0 < i → b'.total = b.total := by
    intro hpos
    obtain ⟨j, rfl⟩ := Nat.exists_eq_add_of_lt hpos
    exact hb .total (.inl (.inr (.inr ⟨rfl, hl⟩)))
  have hcell := fun j : Fin n => t.apply_congr hi dt
    ⟨b'.state.get j, (b'.get (.stageOutput i)).get j, b'.total.get j⟩
    ⟨b.state.get j, (b.get (.stageOutput i)).get j, b.total.get j⟩
    (by rw [hstate]) (by rw [hstage]) (fun h => by rw [htotal h])
  rcases hr with rfl | rfl | ⟨rfl, -, hlast⟩
  · change Buffers.state _ = Buffers.state _
    rw [Buffers.state_mapCells, Buffers.state_mapCells]
    exact congrArg Vector.ofFn (funext fun j => (hcell j).1)
  · rw [Buffers.stage_mapCells, Buffers.stage_mapCells]
    exact congrArg Vector.ofFn (funext fun j => (hcell j).2.1)
  · change Buffers.total _ = Buffers.total _
    rw [Buffers.total_mapCells, Buffers.total_mapCells]
    exact congrArg Vector.ofFn (funext fun j => (hcell j).2.2 hlast)

end Tableau

/-! ## The rows -/

namespace Op

variable [Scalar α] {ops : Operators σ α} {t : Tableau α} {i : Nat} {call : StageCall α}
  {work : Launch} {l : List (Op α)} {launches : Prop}

theorem confined_kernel (hl : launches) (hi : i < t.stages)
    (h : Confined ops (t.Settled launches i) l) :
    Confined ops (fun r => Role.Known launches i r ∨ r = .stageOutput i)
      (.kernel (t.stage i) call work :: l) := by
  rintro g _ ⟨b, rfl, hb⟩
  have hretains : g.Retains (g.setBuffers b) := ⟨b, rfl, hb .state (.inl (Role.known_state i))⟩
  refine ⟨hretains, fun stream params memory memory' => ?_⟩
  rcases executeLaunch_cases ops.overflow (t.stage i) call work params g with
    ⟨v, hv, hrefused⟩ | hran
  · have hg := hrefused g.functions.buffers
    change executeLaunch _ _ _ _ _ _ g = (v, g) at hg
    simp only [kernel, execute, hg, hrefused b]
    exact ⟨trivial, hretains, fun h => absurd h hv⟩
  · have hg := hran g.functions.buffers
    change executeLaunch _ _ _ _ _ _ g = _ at hg
    have hshares : (g.setBuffers (g.functions.buffers.mapCells _ _)).Shares (t.Settled launches i)
        (g.setBuffers (b.mapCells _ _)) :=
      ⟨_, rfl, fun r hr => Tableau.get_mapCells_of_settled hl hi call.dt hb hr⟩
    simp only [kernel, execute, hg, hran b]
    exact ⟨trivial, hshares.retains (.inl rfl), fun _ => h hshares⟩

variable (ho : ops.rhs.Overwrites) (hf : ops.boundary.Functional) (b : Binding α) (blockSize : Nat)
  (policy : Descriptor α → BoundaryPolicy)
include ho hf

/-- **A row sees only what is known before its stage**, and what it leaves is known after it. -/
theorem confined_row (hl : launches ↔ ∃ work, b.launch blockSize (t.stage i) = .ok work)
    (hi : i < t.stages) (h : Confined ops (t.Settled launches i) l) :
    Confined ops (Role.Known launches i) (b.row blockSize policy (t.stage i) call ++ l) := by
  have hstate : Role.Known launches i .state := Role.known_state i
  have hin : Role.Known launches i (t.stage i).rhsInput := t.known_rhsInput i
  -- with the rates known, they may be corrected
  have hradiation : ∀ {rest : List (Op α)},
      Confined ops (fun r => Role.Known launches i r ∨ r = (t.stage i).rhsOutput) rest →
      Confined ops (fun r => Role.Known launches i r ∨ r = (t.stage i).rhsOutput)
        ((if (policy b.descriptor).afterRhs then [.radiation (t.stage i) call] else [])
          ++ rest) := by
    intro rest hrest
    split
    · exact confined_radiation hf (.inl hstate) (.inl hin) (.inr rfl) hrest
    · exact hrest
  rw [Binding.row, List.cons_append, List.append_assoc]
  refine confined_rates ho hstate hin (hradiation ?_)
  cases hw : b.launch blockSize (t.stage i) with
  | error e => exact h.mono fun r => Tableau.known_of_settled (by rw [hl, hw]; simp)
  | ok work =>
    refine confined_kernel (hl.mpr ⟨work, hw⟩) hi ?_
    split
    · exact confined_boundary hf (.inl rfl) (t.settled_boundaryTarget i) h
    · exact h

/-- **The rounds of all stages from some stage on** see only what is known before the first of
them. -/
theorem confined_rounds (callOf : Stage α → StageCall α)
    (hl : ∀ i, launches ↔ ∃ work, b.launch blockSize (t.stage i) = .ok work) :
    ∀ {k i : Nat}, i + k = t.stages → Confined ops (Role.Known launches i)
      ((List.range' i k).flatMap fun j =>
        .sync b.descriptor :: b.row blockSize policy (t.stage j) (callOf (t.stage j))) := by
  intro k
  induction k with
  | zero => exact fun {i} _ => confined_nil (Role.known_state i)
  | succ k ih =>
    intro i hik
    rw [List.range'_succ, List.flatMap_cons, List.cons_append]
    refine confined_sync (Role.known_state i) _
      (confined_row ho hf b blockSize policy (hl i) (by omega) ?_)
    by_cases hlast : i + 1 < t.stages
    · exact (ih (by omega)).mono fun r => Tableau.settled_of_known hlast
    · obtain rfl : k = 0 := by omega
      exact confined_nil (.inl rfl)

end Op

end MethodOfLines
