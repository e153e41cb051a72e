import MethodOfLines.Proofs.Issue
import MethodOfLines.Proofs.Row

/-!
# Proofs/Stage — one stage over a list of grids

The operations a stage asks for one grid, after its parameters, are the `Binding.row` of the grid.
A stage is then a sweep of rows and a fence, taken from a pool that is `Ready`: every stream stands
at `done`, and every grid of the list is held.

* `Progress.ready_of_run_forStage` — a stage that succeeds was done on every grid, and leaves the
  pool ready, each grid as its own row left it.
* `Progress.run_forStage` — a stage in which no row crashes and no launch is refused returns the
  error of the first failing grid of the lowest stream that has one.
* `Progress.run_forStage_refused` — a stage in which no row crashes and a launch is refused returns
  the first refusal, whatever failed on the streams before.
-/

namespace MethodOfLines

variable {σ α : Type}

/-! ## What a stage asks -/

section Asked

variable (blockSize : Nat) (policy : Descriptor α → BoundaryPolicy) (stage : Stage α)
  (call : StageCall α)

/-- The refusal of a grid's launch. -/
def Binding.refusal? (b : Binding α) : Option DispatchError :=
  match b.launch blockSize stage with
  | .error e => some e
  | .ok _ => none

/-- The grids a stage reaches: all, or those up to the first whose launch is refused. -/
def Binding.reached : List (Binding α) → List (Binding α)
  | [] => []
  | b :: bs => if (b.refusal? blockSize stage).isSome then [b] else b :: reached bs

theorem Binding.reached_sublist (bs : List (Binding α)) :
    (reached blockSize stage bs).Sublist bs := by
  induction bs with
  | nil => exact .slnil
  | cons b bs ih =>
    unfold reached
    split
    · exact .cons_cons b (List.nil_sublist bs)
    · exact .cons_cons b ih

theorem Binding.reached_eq_self {bs : List (Binding α)}
    (h : ∀ b ∈ bs, b.refusal? blockSize stage = none) : reached blockSize stage bs = bs := by
  induction bs with
  | nil => rfl
  | cons b bs ih =>
    rw [reached, h b List.mem_cons_self, if_neg (by simp),
      ih fun b' hb' => h b' (List.mem_cons_of_mem _ hb')]

namespace Command

theorem refusal?_forGrid (b : Binding α) :
    refusal? (forGrid blockSize (policy b.descriptor) stage call b)
      = b.refusal? blockSize stage := by
  unfold forGrid launch Binding.refusal?
  cases b.launch blockSize stage <;> cases (policy b.descriptor).afterRhs <;>
    cases (policy b.descriptor).afterStage <;> rfl

theorem requests_forGrid (b : Binding α) :
    requests (forGrid blockSize (policy b.descriptor) stage call b)
      = (Op.sync b.descriptor :: b.row blockSize policy stage call).map (.submit b call) := by
  unfold forGrid launch Binding.row
  cases b.launch blockSize stage <;> cases (policy b.descriptor).afterRhs <;>
    cases (policy b.descriptor).afterStage <;> rfl

theorem refusal?_flatMap_forGrid (bs : List (Binding α)) :
    refusal? (bs.flatMap fun b => forGrid blockSize (policy b.descriptor) stage call b)
      = bs.findSome? (·.refusal? blockSize stage) := by
  induction bs with
  | nil => rfl
  | cons b bs ih =>
    rw [List.flatMap_cons, refusal?_append, refusal?_forGrid, ih, List.findSome?_cons]
    cases b.refusal? blockSize stage <;> rfl

/-- A stage asks for the rows of the grids it reaches. -/
theorem requests_flatMap_forGrid (bs : List (Binding α)) :
    requests (bs.flatMap fun b => forGrid blockSize (policy b.descriptor) stage call b)
      = (Binding.reached blockSize stage bs).flatMap fun b =>
          (Op.sync b.descriptor :: b.row blockSize policy stage call).map (.submit b call) := by
  induction bs with
  | nil => rfl
  | cons b bs ih =>
    rw [List.flatMap_cons, Binding.reached]
    cases h : b.refusal? blockSize stage with
    | none =>
      rw [requests_append ((refusal?_forGrid ..).trans h), ih, requests_forGrid]
      rfl
    | some error =>
      rw [requests_append_of_refusal ((refusal?_forGrid ..).trans h), requests_forGrid]
      simp

end Command

theorem Pool.carry_flatMap_rows [Scalar α] (ops : Operators σ α) (bs : List (Binding α)) :
    ∀ pool : Pool σ α,
      pool.carry ops (bs.flatMap fun b =>
          (Op.sync b.descriptor :: b.row blockSize policy stage call).map (.submit b call))
        = pool.sweep ops (Binding.row blockSize policy stage call) bs := by
  induction bs with
  | nil => exact fun _ => rfl
  | cons b bs ih =>
    intro pool
    rw [List.flatMap_cons, carry_append, carry_submits, ih, sweep_cons]

end Asked

/-! ## A pool between two stages -/

/-- **A pool ready for the next stage**: the streams stand in increasing order, nothing is wrong on
any of them, and the grid of every entry is held. -/
structure Pool.Ready (pool : Pool σ α) (size : Nat) (entries : List (Nat × Grid α))
    (current : Nat × Grid α → Grid α) : Prop where
  sorted : pool.indices.Pairwise (· < ·)
  done : ∀ s, pool.statusOf s = .done
  grids : ∀ entry ∈ entries, pool.grid? (Pool.bind size entry) = some (current entry)

theorem Pool.Ready.nodup {pool : Pool σ α} {size : Nat} {entries : List (Nat × Grid α)}
    {current : Nat × Grid α → Grid α} (h : pool.Ready size entries current) : pool.indices.Nodup :=
  nodup_of_sorted h.sorted

theorem Pool.Ready.congr {pool : Pool σ α} {size : Nat} {entries : List (Nat × Grid α)}
    {current current' : Nat × Grid α → Grid α} (h : pool.Ready size entries current)
    (hc : ∀ e ∈ entries, current e = current' e) : pool.Ready size entries current' :=
  ⟨h.sorted, h.done, fun e he => (h.grids e he).trans (congrArg some (hc e he))⟩

theorem Pool.ready_spawn (size : Nat) (grids : List (Grid α)) (memory : σ) :
    (Pool.spawn size grids memory).Ready size (Pool.slots grids) Prod.snd where
  sorted := indices_spawn_sorted size grids memory
  done := statusOf_spawn size grids memory
  grids _ h := grid?_spawn size memory h

/-- A grid fits the binding it was given, whatever its buffers hold since. -/
theorem Pool.fits_bind {e : Nat × Grid α} {g : Grid α} (h : e.2.Refills g) (size : Nat) :
    (bind size e).Fits g :=
  Binding.Fits.refills ⟨rfl, rfl⟩ h

theorem Pool.mem_indices_of_grid? {pool : Pool σ α} {b : Binding α} {g : Grid α}
    (h : pool.grid? b = some g) : b.stream ∈ pool.indices := by
  obtain ⟨st, hst, -⟩ := stream?_of_grid? h
  exact List.mem_map.mpr ⟨st, mem_of_stream? hst, index_of_stream? hst⟩

/-! ## A stage carried out -/

namespace Progress

variable [Scalar α] (ops : Operators σ α) (blockSize : Nat) (policy : Descriptor α → BoundaryPolicy)
  {size : Nat} {entries : List (Nat × Grid α)} {current : Nat × Grid α → Grid α}

/-- What the row of a grid comes to. -/
def rowOutcome (size : Nat) (stage : Stage α) (call : StageCall α) (entry : Nat × Grid α)
    (g : Grid α) (memory : σ) : Executed σ α :=
  (Pool.bind size entry).outcome ops ((Pool.bind size entry).row blockSize policy stage call) g
    memory

/-- The sweep of a stage, from a pool that is ready. -/
theorem sweep_of_ready (stage : Stage α) (call : StageCall α) {pool : Pool σ α}
    (hr : pool.Ready size entries current) (hs : (entries.map Prod.fst).Nodup) : ∃ μ : Nat → σ,
      (∀ s, (pool.sweep ops (Binding.row blockSize policy stage call)
            (entries.map (Pool.bind size))).statusOf s
          = Verdict.first ((entries.filter fun e => (Pool.bind size e).stream = s).map fun e =>
              (rowOutcome ops blockSize policy size stage call e (current e) (μ e.1)).verdict))
        ∧ ∀ e ∈ entries, (pool.sweep ops (Binding.row blockSize policy stage call)
              (entries.map (Pool.bind size))).statusOf (Pool.bind size e).stream = .done →
            (pool.sweep ops (Binding.row blockSize policy stage call)
                (entries.map (Pool.bind size))).grid? (Pool.bind size e)
              = some (rowOutcome ops blockSize policy size stage call e (current e)
                  (μ e.1)).grid := by
  obtain ⟨μ, hstat, hgrid, -⟩ := Pool.sweep_spec ops (Pool.bind size) current
    (Binding.row blockSize policy stage call)
    (fun e _ => ⟨Binding.row_ne_nil blockSize policy stage call _,
      fun op hop => Binding.isWork_of_mem_row blockSize policy stage call hop⟩)
    hs pool hr.grids
  refine ⟨μ, fun s => ?_, hgrid⟩
  rw [hstat s, hr.done s, Verdict.done_andThen]
  rfl

/-- The commands of a stage before its fence are the sweep of the grids it reaches. -/
theorem carry_enter_flatMap (stage : Stage α) (call : StageCall α) (bs : List (Binding α))
    (pool : Pool σ α) :
    pool.carry ops (Command.requests (.enter stage call ::
        bs.flatMap fun b => Command.forGrid blockSize (policy b.descriptor) stage call b))
      = pool.sweep ops (Binding.row blockSize policy stage call)
          (Binding.reached blockSize stage bs) := by
  rw [Command.requests, Command.requests_flatMap_forGrid, Pool.carry_flatMap_rows]

variable {ops blockSize policy} {stage : Stage α} {call : StageCall α}

/-- If every stream stands at `done` after the sweep, every row was done. -/
theorem verdict_of_sweep_done {pool : Pool σ α} {μ : Nat → σ}
    (hstat : ∀ s, pool.statusOf s
      = Verdict.first ((entries.filter fun e => (Pool.bind size e).stream = s).map fun e =>
          (rowOutcome ops blockSize policy size stage call e (current e) (μ e.1)).verdict))
    (hd : ∀ s, pool.statusOf s = .done) {e : Nat × Grid α} (he : e ∈ entries) :
    (rowOutcome ops blockSize policy size stage call e (current e) (μ e.1)).verdict = .done := by
  have hall := Verdict.first_eq_done.mp ((hstat (Pool.bind size e).stream).symm.trans (hd _))
  exact hall _ (List.mem_map.mpr ⟨e, List.mem_filter.mpr ⟨he, by simp⟩, rfl⟩)

/-- A fence asked for alone. -/
theorem run_fence (ops : Operators σ α) (stage : Stage α) (p : Progress σ α) :
    (run ops [.ask (.fence stage)] p).1 = (p.pool.fence stage).1
      ∧ (run ops [.ask (.fence stage)] p).2.pool = (p.pool.fence stage).2 := by
  rw [run, issue, Pool.serve]
  rcases p.pool.fence stage with ⟨_ | _, _⟩ <;> exact ⟨rfl, rfl⟩

/-- **A stage that succeeds was done on every grid.** -/
theorem ready_of_run_forStage {p p' : Progress σ α} (hr : p.pool.Ready size entries current)
    (hs : (entries.map Prod.fst).Nodup)
    (h : run ops (Command.forStage blockSize policy (entries.map (Pool.bind size)) stage call) p
      = (.ok (), p')) : ∃ μ : Nat → σ,
    (∀ e ∈ entries, (Pool.bind size e).refusal? blockSize stage = none
        ∧ (rowOutcome ops blockSize policy size stage call e (current e) (μ e.1)).verdict = .done)
      ∧ p'.pool.bindings = p.pool.bindings
      ∧ p'.pool.Ready size entries fun e =>
          (rowOutcome ops blockSize policy size stage call e (current e) (μ e.1)).grid := by
  obtain ⟨q, hq, hfence⟩ := run_append_ok ops h
  obtain ⟨hpool, href⟩ := pool_of_run_ok ops hq
  have hnone : ∀ b ∈ entries.map (Pool.bind size), b.refusal? blockSize stage = none := by
    rw [Command.refusal?, Command.refusal?_flatMap_forGrid] at href
    exact List.findSome?_eq_none_iff.mp href
  rw [carry_enter_flatMap, Binding.reached_eq_self _ _ hnone] at hpool
  obtain ⟨μ, hstat, hgrid⟩ := sweep_of_ready ops blockSize policy stage call hr hs
  rw [← hpool] at hstat hgrid
  have hix : q.pool.indices = p.pool.indices := by rw [hpool, Pool.indices_sweep]
  -- the fence passes, so nothing is wrong on any stream
  have hok : .ok () = (q.pool.fence stage).1 ∧ p'.pool = (q.pool.fence stage).2 := by
    have := run_fence ops stage q
    rwa [hfence] at this
  have hd := (Pool.fence_eq_ok_iff (hix ▸ hr.nodup) stage).mp hok.1.symm
  refine ⟨μ, fun e he => ⟨hnone _ (List.mem_map_of_mem he), verdict_of_sweep_done hstat hd he⟩,
    ?_, ?_⟩
  · rw [hok.2, Pool.bindings_fence, hpool, Pool.bindings_sweep]
  · rw [hok.2]
    refine ⟨?_, fun s => Pool.statusOf_fence (by rw [hd]; simp) stage, fun e he => ?_⟩
    · rw [Pool.indices_fence, hix]
      exact hr.sorted
    · rw [Pool.grid?_fence]
      exact hgrid e he (hd _)

/-! ## A stage without a crash -/

theorem rowOutcome_ne_crashed {e : Nat × Grid α} (hc : ops.NeverCrashOn e.2) (blockSize : Nat)
    (policy : Descriptor α → BoundaryPolicy) (stage : Stage α) (call : StageCall α)
    {g : Grid α} (hg : e.2.Refills g) (memory : σ) :
    (rowOutcome ops blockSize policy size stage call e g memory).verdict ≠ .crashed := by
  have hord := Binding.ordinary_row (hc.refills hg) blockSize policy stage call
    (Pool.fits_bind hg size) memory
  rcases hord with h | ⟨error, h, -⟩ <;> rw [rowOutcome, h] <;> simp

section Kept

variable {p : Progress σ α} (hr : p.pool.Ready size entries current)
  (hs : (entries.map Prod.fst).Nodup)
  (hkept : ∀ e ∈ entries, ∀ memory,
    (rowOutcome ops blockSize policy size stage call e (current e) memory).verdict ≠ .crashed)

include hr hs hkept in
/-- **The commands of a stage before its fence end with the first refusal, if there is one.** -/
theorem run_before_fence : ∃ p' : Progress σ α,
      p'.pool = p.pool.sweep ops (Binding.row blockSize policy stage call)
          (Binding.reached blockSize stage (entries.map (Pool.bind size)))
        ∧ (∀ s, p'.pool.statusOf s ≠ .crashed)
        ∧ run ops (.enter stage call :: (entries.map (Pool.bind size)).flatMap fun b =>
              Command.forGrid blockSize (policy b.descriptor) stage call b) p
          = (StepError.result (((entries.map (Pool.bind size)).findSome?
              (·.refusal? blockSize stage)).map .dispatch), p') := by
  -- the grids reached are some of the entries, and the pool is ready for those as well
  obtain ⟨reached, hsub, hreached⟩ := List.sublist_map_iff.mp
    (Binding.reached_sublist blockSize stage (entries.map (Pool.bind size)))
  have hr' : p.pool.Ready size reached current :=
    ⟨hr.sorted, hr.done, fun e he => hr.grids e (hsub.subset he)⟩
  have hs' : (reached.map Prod.fst).Nodup := (hsub.map Prod.fst).nodup hs
  have hcarry := carry_enter_flatMap ops blockSize policy stage call (entries.map (Pool.bind size))
    p.pool
  have hissues : ∀ request ∈ Command.requests (.enter stage call ::
      (entries.map (Pool.bind size)).flatMap fun b =>
        Command.forGrid blockSize (policy b.descriptor) stage call b), p.pool.Issues request := by
    intro request hrequest
    rw [Command.requests, Command.requests_flatMap_forGrid, hreached] at hrequest
    obtain ⟨b, hb, hop⟩ := List.mem_flatMap.mp hrequest
    obtain ⟨e, he, rfl⟩ := List.mem_map.mp hb
    obtain ⟨op, -, rfl⟩ := List.mem_map.mp hop
    exact Pool.mem_indices_of_grid? (hr'.grids e he)
  have hcrash : ∀ s, (p.pool.sweep ops (Binding.row blockSize policy stage call)
      (Binding.reached blockSize stage (entries.map (Pool.bind size)))).statusOf s ≠ .crashed := by
    intro s
    obtain ⟨μ, hstat, -⟩ := sweep_of_ready ops blockSize policy stage call hr' hs'
    rw [hreached, hstat]
    refine Verdict.first_ne_crashed fun v hv => ?_
    obtain ⟨e, he, rfl⟩ := List.mem_map.mp hv
    exact hkept e (hsub.subset (List.mem_of_mem_filter he)) (μ e.1)
  obtain ⟨p', hpool, hrun⟩ := run_of_issues ops hissues fun s => by rw [hcarry]; exact hcrash s
  rw [hcarry] at hpool
  refine ⟨p', hpool, hpool ▸ hcrash, hrun.trans ?_⟩
  rw [Command.refusal?, Command.refusal?_flatMap_forGrid]

include hr hs hkept in
/-- **A stage in which a launch is refused returns the first refusal**, whatever failed on the
streams before. -/
theorem run_forStage_refused {error : DispatchError}
    (he : (entries.map (Pool.bind size)).findSome? (·.refusal? blockSize stage) = some error) :
    (run ops (Command.forStage blockSize policy (entries.map (Pool.bind size)) stage call) p).1
      = .error (.dispatch error) := by
  obtain ⟨p', -, -, hrun⟩ := run_before_fence hr hs hkept
  rw [he] at hrun
  rw [Command.forStage, run_append, hrun]
  rfl

include hr hs hkept in
/-- **A stage without a refusal returns the error of the first failing grid of the lowest stream
that has one.** -/
theorem run_forStage (hl : ∀ e ∈ entries, (Pool.bind size e).refusal? blockSize stage = none) :
    ∃ μ : Nat → σ,
      (run ops (Command.forStage blockSize policy (entries.map (Pool.bind size)) stage call) p).1
        = StepError.result (p.pool.indices.findSome? fun s =>
            (entries.filter fun e => (Pool.bind size e).stream = s).findSome? fun e =>
              (rowOutcome ops blockSize policy size stage call e (current e)
                (μ e.1)).verdict.error?) := by
  obtain ⟨p', hpool, hcrash, hrun⟩ := run_before_fence hr hs hkept
  have hnone : ∀ b ∈ entries.map (Pool.bind size), b.refusal? blockSize stage = none := by
    intro b hb
    obtain ⟨e, he, rfl⟩ := List.mem_map.mp hb
    exact hl e he
  rw [List.findSome?_eq_none_iff.mpr hnone] at hrun
  rw [Binding.reached_eq_self _ _ hnone] at hpool
  obtain ⟨μ, hstat, -⟩ := sweep_of_ready ops blockSize policy stage call hr hs
  rw [← hpool] at hstat
  have hix : p'.pool.indices = p.pool.indices := by rw [hpool, Pool.indices_sweep]
  have hfence := Pool.fence_eq_findSome? (hix ▸ hr.nodup) hcrash stage
  refine ⟨μ, ?_⟩
  rw [Command.forStage, run_append, hrun]
  refine ((run_fence ops stage p').1.trans hfence).trans ?_
  rw [hix]
  congr 1
  refine List.findSome?_congr fun s _ => ?_
  have hverdict : ∀ v ∈ (entries.filter fun e => (Pool.bind size e).stream = s).map fun e =>
      (rowOutcome ops blockSize policy size stage call e (current e) (μ e.1)).verdict,
      v ≠ .crashed := by
    intro v hv
    obtain ⟨e, he, rfl⟩ := List.mem_map.mp hv
    exact hkept e (List.mem_of_mem_filter he) (μ e.1)
  rw [hstat, Verdict.error?_first hverdict, List.findSome?_map]
  rfl

include hr hs in
/-- **A stage in which every row is done succeeds.** -/
theorem exists_run_forStage_ok
    (hl : ∀ e ∈ entries, (Pool.bind size e).refusal? blockSize stage = none)
    (hd : ∀ e ∈ entries, ∀ memory,
      (rowOutcome ops blockSize policy size stage call e (current e) memory).verdict = .done) :
    ∃ p', run ops (Command.forStage blockSize policy (entries.map (Pool.bind size)) stage call) p
      = (.ok (), p') := by
  obtain ⟨μ, hresult⟩ := run_forStage hr hs (fun e he memory => by rw [hd e he]; simp) hl
  have hnone : p.pool.indices.findSome? (fun s =>
      (entries.filter fun e => (Pool.bind size e).stream = s).findSome? fun e =>
        (rowOutcome ops blockSize policy size stage call e (current e)
          (μ e.1)).verdict.error?) = none := by
    refine List.findSome?_eq_none_iff.mpr fun s _ => List.findSome?_eq_none_iff.mpr fun e he => ?_
    rw [hd e (List.mem_of_mem_filter he)]
    rfl
  exact ⟨_, Prod.ext (hresult.trans (StepError.result_eq_ok.mpr hnone)) rfl⟩

include hr hs hkept in
/-- **A stage loses no stream**, however it ends. -/
theorem statusOf_run_forStage (s : StreamIndex) :
    (run ops (Command.forStage blockSize policy (entries.map (Pool.bind size)) stage call)
      p).2.pool.statusOf s ≠ .crashed := by
  obtain ⟨p', -, hcrash, hrun⟩ := run_before_fence hr hs hkept
  rw [Command.forStage, run_append, hrun]
  cases (entries.map (Pool.bind size)).findSome? (·.refusal? blockSize stage) with
  | some error => exact hcrash s
  | none =>
    have hfence := (run_fence ops stage p').2
    simp only [Option.map_none, StepError.result]
    rw [hfence, Pool.statusOf_fence (hcrash s)]
    simp

end Kept

end Progress

end MethodOfLines
