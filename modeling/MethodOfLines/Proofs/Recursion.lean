import MethodOfLines.Proofs.Row

/-!
# Proofs/Recursion — a Runge-Kutta step in four buffers

A `Recursion` is one step of one grid as it is written on paper: the **arguments** `Yᵢ`, the
**slopes** `kᵢ` and the **partial sums** `Tᵢ` are functions of the stage, each with a vector of its
own, and nothing is overwritten.

    Y₀ = y          kᵢ = rate i Yᵢ          Yᵢ₊₁ = settle i (fma nextᵢ kᵢ y)
    T₀ = w₀ * k₀    Tᵢ = fma wᵢ kᵢ Tᵢ₋₁     result = settle l (Tₗ₋₁ + fma wₗ kₗ y)

`Stage.advance` is the same stage as it is carried out on four buffers.  Between two stages the
buffers hold the state of the start, the argument of the next stage and the partial sum
(`Recursion.Holds`); what the other stage buffer holds does not matter, because the next stage
overwrites it before it reads it.  `Recursion.foldl_advance` says what all four hold at the end.
-/

namespace MethodOfLines

variable {α : Type} [Scalar α] {n : Nat}

/-- `a * k + y`, element by element, with one rounding each. -/
def fmaEach (a : α) (k y : Vector α n) : Vector α n := Vector.zipWith (Scalar.fma a) k y

/-- **One step of one grid**, stage by stage. -/
structure Recursion (α : Type) (n : Nat) where
  /-- The state the step starts from. -/
  start : Vector α n
  /-- The slope of a stage, from its argument. -/
  rate : Nat → Vector α n → Vector α n
  /-- What is made of the values a stage leaves. -/
  settle : Nat → Vector α n → Vector α n
  /-- Weight of a slope in the result. -/
  weight : Nat → α
  /-- Weight of a slope in the argument of the next stage. -/
  next : Nat → α

namespace Recursion

variable (r : Recursion α n)

/-- The argument of a stage. -/
def argument : Nat → Vector α n
  | 0 => r.start
  | i + 1 => r.settle i (fmaEach (r.next i) (r.rate i (argument i)) r.start)

/-- The slope of a stage. -/
def slope (i : Nat) : Vector α n := r.rate i (r.argument i)

/-- The weighted sum of the slopes up to a stage. -/
def partialSum : Nat → Vector α n
  | 0 => (r.slope 0).map (r.weight 0 * ·)
  | i + 1 => fmaEach (r.weight (i + 1)) (r.slope (i + 1)) (partialSum i)

/-- **The state after the step**, if stage `last` is its last one. -/
def result : (last : Nat) → Vector α n
  | 0 => r.settle 0 (fmaEach (r.weight 0) (r.slope 0) r.start)
  | i + 1 => r.settle (i + 1) (Vector.zipWith (· + ·) (r.partialSum i)
      (fmaEach (r.weight (i + 1)) (r.slope (i + 1)) r.start))

/-- **The four buffers after the step**: the new state, the last slope in the buffer of its stage
and, unless there is one stage only, the last argument in the other and the sum of the slopes
before. -/
def finished (b : Buffers α n) : (last : Nat) → Buffers α n
  | 0 => (b.set (.stageOutput 0) (r.slope 0)).set .state (r.result 0)
  | i + 1 => (((b.set (.stageOutput (i + 1)) (r.slope (i + 1))).set (.stageOutput i)
      (r.argument (i + 1))).set .total (r.partialSum i)).set .state (r.result (i + 1))

theorem state_finished (b : Buffers α n) (last : Nat) :
    (r.finished b last).state = r.result last := by
  cases last <;> rfl

end Recursion

/-! ## One stage on four buffers -/

omit [Scalar α] in
theorem Role.stageOutput_eq (i : Nat) : stageOutput i = stageA ∨ stageOutput i = stageB := by
  unfold stageOutput
  split
  · exact .inl rfl
  · exact .inr rfl

namespace Operands

theorem mapCells_single (b : α) (o : Operands α n n n) :
    o.mapCells (StageKernel.single b).apply = { o with state := fmaEach b o.stage o.state } :=
  ext_cell fun i hi => by simp [cell, mapCells, StageKernel.apply, fmaEach]

theorem mapCells_first (b next : α) (o : Operands α n n n) :
    o.mapCells (StageKernel.first b next).apply
      = ⟨o.state, fmaEach next o.stage o.state, o.stage.map (b * ·)⟩ :=
  ext_cell fun i hi => by simp [cell, mapCells, StageKernel.apply, fmaEach]

theorem mapCells_intermediate (b next : α) (o : Operands α n n n) :
    o.mapCells (StageKernel.intermediate b next).apply
      = ⟨o.state, fmaEach next o.stage o.state, fmaEach b o.stage o.total⟩ :=
  ext_cell fun i hi => by simp [cell, mapCells, StageKernel.apply, fmaEach]

theorem mapCells_final (b : α) (o : Operands α n n n) :
    o.mapCells (StageKernel.final b).apply
      = { o with state := Vector.zipWith (· + ·) o.total (fmaEach b o.stage o.state) } :=
  ext_cell fun i hi => by simp [cell, mapCells, StageKernel.apply, fmaEach]

end Operands

namespace Stage

/-- **A stage on four buffers**: rates written over the stage buffer, the kernel, and a correction
of what it left. -/
def advance (stage : Stage α) (dt : α) (rate settle : Vector α n → Vector α n) (b : Buffers α n) :
    Buffers α n :=
  let rated := b.set stage.rhsOutput (rate (b.get stage.rhsInput))
  let updated := rated.mapCells (stage.kernel.scale dt).apply stage.rhsOutput
  updated.set stage.boundaryTarget (settle (updated.get stage.boundaryTarget))

/-- What the kernel of a stage makes of state, slope and total. -/
def combine (stage : Stage α) (dt : α) (rate : Vector α n → Vector α n) (b : Buffers α n) :
    Operands α n n n :=
  (Operands.mk b.state (rate (b.get stage.rhsInput)) b.total).mapCells (stage.kernel.scale dt).apply

/-- **The correction goes to the state in the last stage, and to the stage buffer before.** -/
theorem advance_eq (stage : Stage α) (dt : α) (rate settle : Vector α n → Vector α n)
    (b : Buffers α n) :
    stage.advance dt rate settle b
      = let o := stage.combine dt rate b
        if stage.kernel.finalizes then
          ((b.set stage.rhsOutput o.stage).set .total o.total).set .state (settle o.state)
        else ((b.set stage.rhsOutput (settle o.stage)).set .total o.total).set .state o.state := by
  have hout := Role.stageOutput_eq stage.index
  cases hf : stage.kernel.finalizes <;> rcases hout with h | h <;>
    simp [advance, combine, Buffers.mapCells, rhsOutput, boundaryTarget, hf, h, Buffers.set,
      Buffers.get]

end Stage

/-! ## A step on four buffers -/

namespace Recursion

variable (r : Recursion α n)

/-- **What the buffers hold between stage `i` and the next.** -/
structure Holds (i : Nat) (b : Buffers α n) : Prop where
  state : b.state = r.start
  stage : b.get (.stageOutput i) = r.argument (i + 1)
  total : b.total = r.partialSum i

variable {r} {t : Tableau α} {dt : α} (hw : ∀ i, r.weight i = t.weight i * dt)
  (hn : ∀ i, r.next i = t.entry (i + 1) i * dt)

/-- A stage of a method under the maps of a recursion. -/
def advance (r : Recursion α n) (t : Tableau α) (dt : α) (b : Buffers α n) (i : Nat) :
    Buffers α n := (t.stage i).advance dt (r.rate i) (r.settle i) b

include hw hn in
/-- The first of several stages. -/
theorem holds_advance_zero (hs : 1 < t.stages) {b : Buffers α n} (hb : b.state = r.start) :
    r.Holds 0 (r.advance t dt b 0) := by
  have hk : (t.stage 0).kernel = .first (t.weight 0) (t.entry 1 0) := by
    simp [Tableau.stage, Tableau.kernel, Nat.ne_of_gt hs]
  have hc : (t.stage 0).combine dt (r.rate 0) b
      = ⟨r.start, fmaEach (r.next 0) (r.slope 0) r.start, (r.slope 0).map (r.weight 0 * ·)⟩ := by
    have hx : b.get (t.stage 0).rhsInput = r.start := hb
    rw [Stage.combine, hk, hx, hb, StageKernel.scale, Operands.mapCells_first, hw, hn]
    rfl
  have hadv : r.advance t dt b 0 = ((b.set (.stageOutput 0) (r.argument 1)).set .total
      (r.partialSum 0)).set .state r.start := by
    rw [advance, Stage.advance_eq, hk, hc]
    rfl
  rw [hadv]
  exact ⟨rfl, rfl, rfl⟩

include hw hn in
/-- **A stage between the first and the last.**  It reads the argument its predecessor left and
writes the other stage buffer. -/
theorem holds_advance_succ {i : Nat} (hs : i + 2 < t.stages) {b : Buffers α n} (hb : r.Holds i b) :
    r.Holds (i + 1) (r.advance t dt b (i + 1)) := by
  have hk : (t.stage (i + 1)).kernel
      = .intermediate (t.weight (i + 1)) (t.entry (i + 2) (i + 1)) := by
    have h1 : t.stages ≠ 1 := by omega
    have h2 : i + 1 + 1 ≠ t.stages := by omega
    simp [Tableau.stage, Tableau.kernel, h1, h2]
  have hc : (t.stage (i + 1)).combine dt (r.rate (i + 1)) b
      = ⟨r.start, fmaEach (r.next (i + 1)) (r.slope (i + 1)) r.start, r.partialSum (i + 1)⟩ := by
    have hx : b.get (t.stage (i + 1)).rhsInput = r.argument (i + 1) := hb.stage
    rw [Stage.combine, hk, hx, hb.state, hb.total, StageKernel.scale,
      Operands.mapCells_intermediate, ← hw, ← hn]
    rfl
  have hadv : r.advance t dt b (i + 1) = ((b.set (.stageOutput (i + 1)) (r.argument (i + 2))).set
      .total (r.partialSum (i + 1))).set .state r.start := by
    rw [advance, Stage.advance_eq, hk, hc]
    rfl
  rw [hadv]
  refine ⟨rfl, ?_, rfl⟩
  rcases Role.stageOutput_eq (i + 1) with h | h <;> rw [h] <;> rfl

include hw in
/-- The only stage of a step. -/
theorem advance_single (hs : t.stages = 1) {b : Buffers α n} (hb : b.state = r.start) :
    r.advance t dt b 0 = r.finished b 0 := by
  have hk : (t.stage 0).kernel = .single (t.weight 0) := by
    simp [Tableau.stage, Tableau.kernel, hs]
  have hc : (t.stage 0).combine dt (r.rate 0) b
      = ⟨fmaEach (r.weight 0) (r.slope 0) r.start, r.slope 0, b.total⟩ := by
    have hx : b.get (t.stage 0).rhsInput = r.start := hb
    rw [Stage.combine, hk, hx, hb, StageKernel.scale, Operands.mapCells_single, ← hw]
    rfl
  rw [advance, Stage.advance_eq, hk, hc]
  rfl

include hw in
/-- **The last of several stages.** -/
theorem advance_final {i : Nat} (hs : i + 2 = t.stages) {b : Buffers α n} (hb : r.Holds i b) :
    r.advance t dt b (i + 1) = r.finished b (i + 1) := by
  have hk : (t.stage (i + 1)).kernel = .final (t.weight (i + 1)) := by
    have h1 : t.stages ≠ 1 := by omega
    simp [Tableau.stage, Tableau.kernel, h1, hs]
  have hc : (t.stage (i + 1)).combine dt (r.rate (i + 1)) b
      = ⟨Vector.zipWith (· + ·) (r.partialSum i)
          (fmaEach (r.weight (i + 1)) (r.slope (i + 1)) r.start), r.slope (i + 1),
        r.partialSum i⟩ := by
    have hx : b.get (t.stage (i + 1)).rhsInput = r.argument (i + 1) := hb.stage
    rw [Stage.combine, hk, hx, hb.state, hb.total, StageKernel.scale, Operands.mapCells_final, ← hw]
    rfl
  have hadv : r.advance t dt b (i + 1) = ((b.set (.stageOutput (i + 1)) (r.slope (i + 1))).set
      .total (r.partialSum i)).set .state (r.result (i + 1)) := by
    rw [advance, Stage.advance_eq, hk, hc]
    rfl
  rw [hadv, finished, ← hb.stage]
  -- the last argument stays where it was read
  have hne := Role.stageOutput_succ_ne i
  rcases Role.stageOutput_eq i with h | h <;> rcases Role.stageOutput_eq (i + 1) with h' | h' <;>
    simp_all [Buffers.set, Buffers.get]

include hw hn in
theorem holds_foldl_advance {b : Buffers α n} (hb : b.state = r.start) :
    ∀ {i : Nat}, i + 1 < t.stages → r.Holds i ((List.range (i + 1)).foldl (r.advance t dt) b)
  | 0, hs => holds_advance_zero hw hn hs hb
  | i + 1, hs => by
    rw [List.range_succ, List.foldl_append]
    exact holds_advance_succ hw hn hs (holds_foldl_advance hb (Nat.lt_of_succ_lt hs))

omit hw hn in
/-- After several stages nothing is left of what the buffers held before. -/
theorem finished_succ (b b' : Buffers α n) (i : Nat) :
    r.finished b (i + 1) = r.finished b' (i + 1) := by
  have hne := Role.stageOutput_succ_ne i
  rcases Role.stageOutput_eq i with h | h <;> rcases Role.stageOutput_eq (i + 1) with h' | h' <;>
    simp_all [finished, Buffers.set]

include hw hn in
/-- **The stages of a method, one after the other on four buffers, leave what the recursion says**,
whatever the stage buffers and the total held before. -/
theorem foldl_advance {b : Buffers α n} (hb : b.state = r.start) {last : Nat}
    (hs : t.stages = last + 1) :
    (List.range t.stages).foldl (r.advance t dt) b = r.finished b last := by
  rw [hs]
  cases last with
  | zero => exact advance_single hw hs hb
  | succ i =>
    have hheld := holds_foldl_advance hw hn hb (show i + 1 < t.stages by omega)
    rw [List.range_succ, List.foldl_append]
    exact (advance_final hw hs.symm hheld).trans (finished_succ _ b i)

end Recursion

end MethodOfLines
