import Mathlib.Algebra.BigOperators.Fin
import Mathlib.Algebra.BigOperators.Ring.Finset
import Mathlib.Algebra.Field.Rat
import Mathlib.Tactic.Ring
import MethodOfLines.Proofs.FourBuffers

/-!
# Proofs/Butcher — the method that a plan carries out

A plan is made of a tableau exactly when the tableau is diagonal: every entry of `a` below the
diagonal is zero, but for the one just below it (`Tableau.isDiagonal_iff`).  On paper an explicit
method uses all entries,

    kᵢ = f (t + cᵢ dt) (y + dt ∑_{j<i} aᵢⱼ kⱼ)        y' = y + dt ∑ᵢ bᵢ kᵢ

and a plan keeps one slope at a time.  Over the rationals, where nothing is rounded, the two agree:
in a diagonal row the sum has one term (`Tableau.sum_entry_mul`), and the running total is the sum
of the slopes so far (`Recursion.partialSum_eq_sum`).
-/

namespace MethodOfLines

variable {σ α : Type}

/-! ## Diagonal tableaux -/

namespace Tableau

/-- Row `i` of a tableau has `i` entries. -/
theorem exists_row (t : Tableau α) {i : Nat} (hi : i < t.stages) :
    ∃ row, t.a[i]? = some row ∧ row.length = i := by
  have hlen : (t.a[i]?).map List.length = some i := by
    rw [← List.getElem?_map, t.triangular, List.getElem?_range (show i < t.b.length from hi)]
  exact Option.map_eq_some_iff.mp hlen

theorem length_a (t : Tableau α) : t.a.length = t.stages := by
  have hlen := congrArg List.length t.triangular
  rwa [List.length_map, List.length_range] at hlen

/-- There is nothing on or above the diagonal. -/
theorem entry_of_le [Zero α] (t : Tableau α) {i j : Nat} (h : i ≤ j) : t.entry i j = 0 := by
  by_cases hi : i < t.stages
  · obtain ⟨row, hrow, hlen⟩ := t.exists_row hi
    rw [entry, hrow, Option.bind_some, List.getElem?_eq_none (by omega)]
    rfl
  · rw [entry, List.getElem?_eq_none (by rw [length_a]; omega)]
    rfl

/-- **A tableau is diagonal if every entry below the diagonal is zero, but for the one just below
it.** -/
theorem isDiagonal_iff [Scalar α] (t : Tableau α) :
    t.isDiagonal = true ↔
      ∀ i j, i < t.stages → j < i → j + 1 ≠ i → Scalar.isZero (t.entry i j) = true := by
  rw [isDiagonal, List.all_eq_true]
  refine ⟨fun h i j hi hj hne => ?_, fun h => ?_⟩
  · obtain ⟨row, hrow, hlen⟩ := t.exists_row hi
    have hj' : j < row.length := by omega
    have hall := List.all_eq_true.mp (h (row, i) (List.mem_zipIdx_iff_getElem?.mpr hrow))
    have hzero := hall row[j] (List.mem_take_iff_getElem.mpr ⟨j, by omega, rfl⟩)
    rwa [entry, hrow, Option.bind_some, List.getElem?_eq_getElem hj', Option.getD_some]
  · rintro ⟨row, i⟩ hmem
    have hrow : t.a[i]? = some row := List.mem_zipIdx_iff_getElem?.mp hmem
    have hi : i < t.stages := by
      rw [← length_a]
      exact (List.getElem?_eq_some_iff.mp hrow).1
    refine List.all_eq_true.mpr fun x hx => ?_
    obtain ⟨j, hj, rfl⟩ := List.mem_take_iff_getElem.mp hx
    have hzero := h i j hi (by omega) (by omega)
    rwa [entry, hrow, Option.bind_some, List.getElem?_eq_getElem (by omega), Option.getD_some]
      at hzero

end Tableau

/-! ## The method on paper -/

namespace Tableau

section Butcher

variable (t : Tableau Rat) {n : Nat} (f : Rat → Vector Rat n → Vector Rat n) (time dt : Rat)
  (y : Vector Rat n)

/-- **The slope of a stage**, from all slopes before it. -/
def butcherSlope (i : Nat) : Vector Rat n :=
  f (time + t.node i * dt)
    (Vector.ofFn fun x => y[x] + dt * ∑ j : Fin i, t.entry i j * (butcherSlope j)[x])
termination_by i
decreasing_by exact j.isLt

/-- **One step of an explicit method.** -/
def butcherStep : Vector Rat n :=
  Vector.ofFn fun x =>
    y[x] + dt * ∑ i : Fin t.stages, t.weight i * (t.butcherSlope f time dt y i)[x]

theorem butcherSlope_eq (i : Nat) :
    t.butcherSlope f time dt y i = f (time + t.node i * dt) (Vector.ofFn fun x =>
      y[x] + dt * ∑ j ∈ Finset.range i, t.entry i j * (t.butcherSlope f time dt y j)[x]) := by
  rw [butcherSlope]
  simp only [Finset.sum_range]

end Butcher

theorem isZero_iff (x : Rat) : Scalar.isZero x = true ↔ x = 0 := beq_iff_eq

/-- **In a diagonal row the sum has one term.** -/
theorem sum_entry_mul {t : Tableau Rat} (hd : t.isDiagonal = true) {i : Nat} (hi : i + 1 < t.stages)
    (k : Nat → Rat) :
    ∑ j ∈ Finset.range (i + 1), t.entry (i + 1) j * k j = t.entry (i + 1) i * k i := by
  have hzero : ∀ j ∈ Finset.range i, t.entry (i + 1) j * k j = 0 := by
    intro j hj
    have hj : j < i := Finset.mem_range.mp hj
    have hentry := t.isDiagonal_iff.mp hd (i + 1) j hi (by omega) (by omega)
    rw [(isZero_iff _).mp hentry, zero_mul]
  rw [Finset.sum_range_succ, Finset.sum_eq_zero hzero, zero_add]

end Tableau

/-! ## The method in four buffers, exactly -/

namespace Recursion

variable {n : Nat} {r : Recursion Rat n} {t : Tableau Rat} {f : Rat → Vector Rat n → Vector Rat n}
  {time dt : Rat}

/-- **A recursion that follows a method without corrections.** -/
structure Follows (r : Recursion Rat n) (t : Tableau Rat) (f : Rat → Vector Rat n → Vector Rat n)
    (time dt : Rat) : Prop where
  rate : ∀ i x, r.rate i x = f (time + t.node i * dt) x
  settle : ∀ i v, r.settle i v = v
  weight : ∀ i, r.weight i = t.weight i * dt
  next : ∀ i, r.next i = t.entry (i + 1) i * dt

theorem getElem_fmaEach (a : Rat) (k y : Vector Rat n) {x : Nat} (hx : x < n) :
    (fmaEach a k y)[x] = a * k[x] + y[x] := by
  rw [fmaEach, Vector.getElem_zipWith]
  rfl

/-- **The slope kept in the buffer is the slope on paper.** -/
theorem Follows.slope_eq (h : r.Follows t f time dt) (hd : t.isDiagonal = true) :
    ∀ {i : Nat}, i < t.stages → r.slope i = t.butcherSlope f time dt r.start i
  | 0, _ => by
    rw [slope, argument, h.rate, t.butcherSlope_eq]
    congr 1
    ext x hx
    simp
  | i + 1, hi => by
    have hprev : r.rate i (r.argument i) = t.butcherSlope f time dt r.start i :=
      h.slope_eq hd (Nat.lt_of_succ_lt hi)
    rw [slope, argument, h.settle, h.rate, hprev, t.butcherSlope_eq f time dt r.start (i + 1)]
    congr 1
    ext x hx
    rw [getElem_fmaEach, h.next, Vector.getElem_ofFn]
    simp only [Fin.getElem_fin]
    rw [Tableau.sum_entry_mul hd hi fun j => (t.butcherSlope f time dt r.start j)[x]]
    ring

/-- **The running total is the sum of the slopes so far.** -/
theorem Follows.partialSum_eq_sum (h : r.Follows t f time dt) {x : Nat} (hx : x < n) (i : Nat) :
    (r.partialSum i)[x] = dt * ∑ j ∈ Finset.range (i + 1), t.weight j * (r.slope j)[x] := by
  induction i with
  | zero =>
    rw [partialSum, Vector.getElem_map, h.weight, Finset.sum_range_one]
    ring
  | succ i ih =>
    rw [partialSum, getElem_fmaEach, ih, h.weight, Finset.sum_range_succ _ (i + 1)]
    ring

/-- **The state after a step is the state on paper.** -/
theorem Follows.result_eq (h : r.Follows t f time dt) (hd : t.isDiagonal = true) {last : Nat}
    (hs : t.stages = last + 1) : r.result last = t.butcherStep f time dt r.start := by
  ext x hx
  have hsum : ∑ i : Fin t.stages, t.weight i * (t.butcherSlope f time dt r.start i)[x]
      = ∑ j ∈ Finset.range (last + 1), t.weight j * (r.slope j)[x] := by
    rw [← hs, Finset.sum_range]
    exact Finset.sum_congr rfl fun i _ => by rw [h.slope_eq hd i.isLt]
  rw [Tableau.butcherStep, Vector.getElem_ofFn]
  simp only [Fin.getElem_fin]
  rw [hsum]
  cases last with
  | zero =>
    rw [result, h.settle, getElem_fmaEach, h.weight, Finset.sum_range_one]
    ring
  | succ i =>
    rw [result, h.settle, Vector.getElem_zipWith, h.partialSum_eq_sum hx, getElem_fmaEach, h.weight,
      Finset.sum_range_succ _ (i + 1)]
    ring

end Recursion

/-! ## A step without corrections -/

section Computes

variable {f : Descriptor Rat → {n : Nat} → Rat → Vector Rat n → Vector Rat n}

/-- Every rational is finite. -/
theorem checkFinite_rat (points : Nat) (values : Array Rat) :
    checkFinite points values = .ok () := by
  have hnone : values.findIdx? (!Scalar.isFinite ·) = none :=
    Array.findIdx?_eq_none_iff.mpr fun _ _ => rfl
  rw [checkFinite, hnone]
  exact ite_self _

/-- **A row without corrections is done**, if the launch covers the buffers. -/
theorem Binding.verdict_row_of_computes {ops : Operators σ Rat} (hrhs : ops.rhs.Computes f)
    {policy : Descriptor Rat → BoundaryPolicy} {b : Binding Rat}
    (hpol : policy b.descriptor = .noOp) {g : Grid Rat} (hg : b.Fits g) {blockSize : Nat}
    {stage : Stage Rat} {work : Launch} (hwork : b.launch blockSize stage = .ok work)
    (htotal : work.total = g.functions.points * g.functions.fields) (call : StageCall Rat)
    (memory : σ) :
    (b.outcome ops (b.row blockSize policy stage call) g memory).verdict = .done := by
  have hrow : b.row blockSize policy stage call = [.rates stage call, .kernel stage call work] := by
    rw [row, hpol, hwork]
    rfl
  have hrates : ((Op.rates stage call).execute ops b.stream (some (.ofDescriptor b.descriptor)) g
      memory).verdict = .done := by
    have hpair := g.functions.buffers.pair?_of_ne stage.rhsInput_ne_rhsOutput
    simp only [Op.rates, Op.execute, Op.executeRhs, hpair, (hrhs _ _ _ _).1, checkFinite_rat]
    cases ops.checkFinite <;> rfl
  obtain ⟨buffers, hbuffers⟩ := Op.refills_execute ops b.stream
    (some (.ofDescriptor b.descriptor)) g memory (.rates stage call)
  rw [outcome, hrow, Op.executeAll_cons_done _ _ _ hrates, Op.executeAll_singleton, hbuffers]
  have hfit : b.Fits (g.setBuffers buffers) := hg.refills ⟨buffers, rfl⟩
  have htotal : work.total = (g.setBuffers buffers).functions.points
      * (g.setBuffers buffers).functions.fields := htotal
  simp only [Op.kernel, Op.execute, executeLaunch_eq hwork hfit, if_pos htotal]

namespace Stepper

variable {s : Stepper σ Rat} (hrhs : s.operators.rhs.Computes f) {grids : List (Grid Rat)}
  (hpol : ∀ g ∈ grids, (s.boundaryFor g).policy = .noOp)

include hrhs hpol in
/-- **A step without corrections succeeds**, if every launch covers the buffers of its grid. -/
theorem exists_run_of_computes (clock : Clock Rat) (memory : σ)
    (hwork : ∀ g ∈ grids, ∃ work,
      Launch.forGrid g.descriptor g.functions.fields s.blockSize = .ok work
        ∧ work.total = g.functions.points * g.functions.fields) :
    ∃ p, Progress.run s.operators (s.plan.stages.flatMap (s.stageCommands clock grids))
      (s.begin clock grids memory) = (.ok (), p) := by
  have hlaunch : ∀ e ∈ Pool.slots grids, ∀ stage, ∃ work,
      (Pool.bind s.streams e).launch s.blockSize stage = .ok work
        ∧ work.total = e.2.functions.points * e.2.functions.fields := by
    intro e he stage
    obtain ⟨work, hok, htotal⟩ := hwork e.2 (Pool.mem_of_mem_slots he)
    refine ⟨work, ?_, htotal⟩
    simp only [Binding.launch, Pool.bind, Binding.ofGrid, hok]
    rfl
  refine exists_run_stages_ok (fun stage _ e he => ?_) (fun stage _ e he g hg memory' => ?_)
    (s.ready_begin clock grids memory) fun e _ => .refl e.2
  · obtain ⟨work, hok, -⟩ := hlaunch e he stage
    rw [Binding.refusal?, hok]
  · obtain ⟨work, hok, htotal⟩ := hlaunch e he stage
    obtain ⟨buffers, rfl⟩ := hg
    have hpol' : s.policyOf (Pool.bind s.streams e).descriptor = .noOp :=
      hpol e.2 (Pool.mem_of_mem_slots he)
    have hfit : (Pool.bind s.streams e).Fits (e.2.setBuffers buffers) := ⟨rfl, rfl⟩
    exact Binding.verdict_row_of_computes hrhs hpol' hfit hok htotal _ memory'

include hrhs in
theorem follows_recursion (clock : Clock Rat) (memory : σ) {g : Grid Rat}
    (hpol : (s.boundaryFor g).policy = .noOp) :
    (s.recursion clock memory g).Follows s.plan.tableau (f g.descriptor) clock.time clock.dt := by
  obtain ⟨tag, htag⟩ : ∃ tag, s.boundaryFor g = .other tag := by
    cases h : s.boundaryFor g with
    | other tag => exact ⟨tag, rfl⟩
    | _ => rw [h] at hpol; cases hpol
  refine ⟨fun i x => ?_, fun i v => ?_, fun _ => rfl, fun _ => rfl⟩
  · simp only [recursion, htag, Operators.slopeOf, reduceCtorEq, decide_false, Bool.false_eq_true,
      if_false]
    exact (hrhs (s.contextAt clock g i) x _ memory).2
  · simp only [recursion, htag, Operators.settled, reduceCtorEq, decide_false, Bool.false_eq_true,
      if_false]

include hrhs hpol in
/-- **A step without corrections takes every state to the state on paper.** -/
theorem grids_of_run_computes (clock : Clock Rat) (memory : σ) {p : Progress σ Rat}
    (hrun : Progress.run s.operators (s.plan.stages.flatMap (s.stageCommands clock grids))
      (s.begin clock grids memory) = (.ok (), p)) :
    ∃ B : (g : Grid Rat) → Buffers Rat (g.functions.points * g.functions.fields),
      (∀ g ∈ grids, (B g).state = s.plan.tableau.butcherStep (f g.descriptor) clock.time clock.dt
          g.functions.buffers.state)
        ∧ p.pool.grids = grids.map fun g => g.setBuffers (B g) := by
  refine ⟨fun g => (s.recursion clock memory g).finished g.functions.buffers
    (s.plan.tableau.stages - 1), fun g hg => ?_, grids_of_run_ok (Rhs.Computes.overwrites hrhs)
    (fun g hg h => absurd (hpol g hg) h) memory memory hrun⟩
  have hpos : 0 < s.plan.tableau.stages := s.plan.tableau.stages_pos
  obtain ⟨last, hlast⟩ : ∃ last, s.plan.tableau.stages = last + 1 :=
    ⟨s.plan.tableau.stages - 1, by omega⟩
  rw [Recursion.state_finished, hlast, Nat.add_sub_cancel]
  exact (follows_recursion hrhs clock memory (hpol g hg)).result_eq s.plan.diagonal hlast

end Stepper

end Computes

/-- **Making a plan of a tableau keeps the method.**  A plan is made exactly if every entry of `a`
is zero but for those just below the diagonal, and `notDiagonal` is the answer otherwise; and over
the rationals a step of a plan, if no enforcer is called and every launch covers the buffers of its
grid, succeeds and takes every state to the one that the full tableau says. -/
theorem Plan.ofTableau_keeps_method :
    (∀ {α : Type} [Scalar α] (t : Tableau α),
      (∀ i j, i ≤ j → t.entry i j = 0)
        ∧ ((∃ p, ofTableau t = .ok p ∧ p.tableau = t) ↔
            ∀ i j, i < t.stages → j < i → j + 1 ≠ i → Scalar.isZero (t.entry i j) = true)
        ∧ ((¬ ∃ p, ofTableau t = .ok p) → ofTableau t = .error (.notDiagonal t.name)))
    ∧ ∀ {σ : Type} (t : Tableau Rat) (s : Stepper σ Rat)
        (f : Descriptor Rat → {n : Nat} → Rat → Vector Rat n → Vector Rat n),
      ofTableau t = .ok s.plan → s.operators.rhs.Computes f → s.poisoned = false →
      ∀ (clock : Clock Rat) (grids : List (Grid Rat)) (memory : σ),
        (∀ g ∈ grids, (s.boundaryFor g).policy = .noOp) →
        (∀ g ∈ grids, ∃ work,
          Launch.forGrid g.descriptor g.functions.fields s.blockSize = .ok work
            ∧ work.total = g.functions.points * g.functions.fields) →
        (∃ report, (s.step clock grids memory).result = .ok report)
          ∧ ∃ B : (g : Grid Rat) → Buffers Rat (g.functions.points * g.functions.fields),
            (∀ g ∈ grids, (B g).state
                = t.butcherStep (f g.descriptor) clock.time clock.dt g.functions.buffers.state)
              ∧ (s.step clock grids memory).grids = grids.map fun g => g.setBuffers (B g) := by
  refine ⟨fun t => ⟨fun i j => t.entry_of_le, ?_, fun h => ?_⟩, ?_⟩
  · rw [← t.isDiagonal_iff]
    refine ⟨fun ⟨p, _, ht⟩ => ht ▸ p.diagonal, fun hd => ⟨⟨t, hd⟩, ?_, rfl⟩⟩
    rw [ofTableau, dif_pos hd]
  · by_cases hd : t.isDiagonal = true
    · exact absurd ⟨⟨t, hd⟩, by rw [ofTableau, dif_pos hd]⟩ h
    · rw [ofTableau, dif_neg hd]
  · intro σ t s f ht hrhs hp clock grids memory hpol hwork
    obtain rfl : s.plan.tableau = t := by
      rw [ofTableau] at ht
      split at ht
      · rw [← Except.ok.inj ht]
      · cases ht
    obtain ⟨p, hrun⟩ := Stepper.exists_run_of_computes hrhs hpol clock memory hwork
    rw [Stepper.step_of_run_ok hp hrun]
    exact ⟨⟨_, rfl⟩, Stepper.grids_of_run_computes hrhs hpol clock memory hrun⟩

/-- Heun's method of third order on two grids, both at their paper values, with all three stages in
the sum. -/
theorem Plan.ofTableau_keeps_method_heunThird :
    let s : Stepper Unit Rat := .heunThird (.affine 1 2 3) .none
    let f : Descriptor Rat → {n : Nat} → Rat → Vector Rat n → Vector Rat n := fun _ _ time x =>
      Vector.ofFn fun i => 1 * x.get i + 2 * time + 3 * ((i : Nat) : Rat)
    let clock : Clock Rat := ⟨0, 1, 0⟩
    let grids := [Grid.pair 0 (.other "flat") 1 2, Grid.pair 3 (.other "flat") 3 4]
    ofTableau Tableau.heunThird = .ok s.plan
      ∧ ∃ B : (g : Grid Rat) → Buffers Rat (g.functions.points * g.functions.fields),
        (∀ g ∈ grids, (B g).state = Tableau.heunThird.butcherStep (f g.descriptor) 0 1
            g.functions.buffers.state)
          ∧ (s.step clock grids ()).grids = grids.map fun g => g.setBuffers (B g) := by
  intro s f clock grids
  have hplan : ofTableau Tableau.heunThird = .ok s.plan := dif_pos s.plan.diagonal
  have hpair : ∀ (id : GridId) (boundary : BoundaryCondition) (x y : Rat), ∃ work,
      Launch.forGrid (Grid.pair id boundary x y).descriptor 1 1 = .ok work ∧ work.total = 2 * 1 :=
    fun _ _ _ _ => ⟨⟨2, 1, by decide, by decide, by decide, by decide⟩, by cbv, rfl⟩
  have hpol : ∀ g ∈ grids, (s.boundaryFor g).policy = .noOp :=
    List.forall_mem_cons.mpr ⟨rfl, List.forall_mem_singleton.mpr rfl⟩
  have hwork : ∀ g ∈ grids, ∃ work,
      Launch.forGrid g.descriptor g.functions.fields s.blockSize = .ok work
        ∧ work.total = g.functions.points * g.functions.fields :=
    List.forall_mem_cons.mpr ⟨hpair .., List.forall_mem_singleton.mpr (hpair ..)⟩
  obtain ⟨-, hgrids⟩ := ofTableau_keeps_method.2 Tableau.heunThird s f hplan
    (Rhs.computes_affine 1 2 3) rfl clock grids () hpol hwork
  exact ⟨hplan, hgrids⟩

end MethodOfLines
