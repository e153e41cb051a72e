import MethodOfLines.Grid.Basic
import MethodOfLines.Operator.Fault
import MethodOfLines.Operator.Rates

/-!
# Proofs/Collaborators — collaborators without hidden state

A collaborator is **functional** if a call's outcome and buffer do not depend on what is remembered,
it **never crashes on** a grid if every call on buffers of that grid returns, and a right-hand side
**overwrites** its output if nothing of what the output held shows in the result.  Rules that only
make calls fail let none crash (`FaultRule.guard_ne_crashed`).
-/

namespace MethodOfLines

variable {σ α : Type}

/-! ## Collaborators as functions -/

/-- **A right-hand side that is a function of its arguments.** -/
def Rhs.Functional (rhs : Rhs σ α) : Prop :=
  ∀ {m n : Nat} (ctx : Context α) (x : Vector α m) (out : Vector α n) (memory memory' : σ),
    (rhs.evaluate ctx x out memory).outcome = (rhs.evaluate ctx x out memory').outcome
      ∧ (rhs.evaluate ctx x out memory).buffer = (rhs.evaluate ctx x out memory').buffer

/-- **An enforcer that is a function of its arguments.** -/
structure Enforcer.Functional (boundary : Enforcer σ α) : Prop where
  apply : ∀ {n : Nat} (ctx : Context α) (v : Vector α n) (memory memory' : σ),
    (boundary.apply ctx v memory).outcome = (boundary.apply ctx v memory').outcome
      ∧ (boundary.apply ctx v memory).buffer = (boundary.apply ctx v memory').buffer
  radiation : ∀ {m n : Nat} (ctx : Context α) (x : Vector α m) (rates : Vector α n)
      (memory memory' : σ),
    (boundary.applyRadiation ctx x rates memory).outcome
        = (boundary.applyRadiation ctx x rates memory').outcome
      ∧ (boundary.applyRadiation ctx x rates memory).buffer
        = (boundary.applyRadiation ctx x rates memory').buffer

/-- **Collaborators that are functions of their arguments.** -/
structure Operators.Functional (ops : Operators σ α) : Prop where
  rhs : ops.rhs.Functional
  boundary : ops.boundary.Functional

/-- With nothing to remember, collaborators are functions of their arguments. -/
theorem Operators.functional [Subsingleton σ] (ops : Operators σ α) : ops.Functional where
  rhs ctx x out memory memory' := by rw [Subsingleton.elim memory memory']; exact ⟨rfl, rfl⟩
  boundary :=
    { apply := fun ctx v memory memory' => by
        rw [Subsingleton.elim memory memory']; exact ⟨rfl, rfl⟩
      radiation := fun ctx x rates memory memory' => by
        rw [Subsingleton.elim memory memory']; exact ⟨rfl, rfl⟩ }

/-- **Collaborators whose calls on a grid return**, if only with an error, whatever its buffers
hold. -/
structure Operators.NeverCrashOn (ops : Operators σ α) (g : Grid α) : Prop where
  rhs : ∀ ctx : Context α, ctx.grid = g.descriptor → ctx.fields = g.functions.fields →
    ∀ (x out : Vector α (g.functions.points * g.functions.fields)) (memory : σ),
      (ops.rhs.evaluate ctx x out memory).outcome ≠ .crashed
  radiation : ∀ ctx : Context α, ctx.grid = g.descriptor → ctx.fields = g.functions.fields →
    ∀ (x rates : Vector α (g.functions.points * g.functions.fields)) (memory : σ),
      (ops.boundary.applyRadiation ctx x rates memory).outcome ≠ .crashed
  apply : ∀ ctx : Context α, ctx.grid = g.descriptor → ctx.fields = g.functions.fields →
    ∀ (v : Vector α (g.functions.points * g.functions.fields)) (memory : σ),
      (ops.boundary.apply ctx v memory).outcome ≠ .crashed

/-- **A right-hand side that overwrites its output**: whether it succeeds, and what it then leaves,
depends neither on what the output held nor on what is remembered. -/
def Rhs.Overwrites (rhs : Rhs σ α) : Prop :=
  ∀ {n : Nat} (ctx : Context α) (x out out' : Vector α n) (memory memory' : σ),
    (rhs.evaluate ctx x out memory).outcome = (rhs.evaluate ctx x out' memory').outcome
      ∧ ((rhs.evaluate ctx x out memory).outcome = .done →
        (rhs.evaluate ctx x out memory).buffer = (rhs.evaluate ctx x out' memory').buffer)

/-- **A right-hand side that computes a function** of the shape, the time and the values. -/
def Rhs.Computes (rhs : Rhs σ α) (f : Descriptor α → {n : Nat} → α → Vector α n → Vector α n) :
    Prop :=
  ∀ ⦃n : Nat⦄ (ctx : Context α) (x out : Vector α n) (memory : σ),
    (rhs.evaluate ctx x out memory).outcome = .done
      ∧ (rhs.evaluate ctx x out memory).buffer = f ctx.grid ctx.time x

theorem Rhs.Computes.overwrites {rhs : Rhs σ α}
    {f : Descriptor α → {n : Nat} → α → Vector α n → Vector α n} (h : rhs.Computes f) :
    rhs.Overwrites := by
  intro n ctx x out out' memory memory'
  obtain ⟨hdone, hbuffer⟩ := h ctx x out memory
  obtain ⟨hdone', hbuffer'⟩ := h ctx x out' memory'
  exact ⟨hdone.trans hdone'.symm, fun _ => hbuffer.trans hbuffer'.symm⟩

/-! ## Simple collaborators -/

/-- Rates taken element by element leave nothing of the output they are written to. -/
theorem Rhs.pointwise_eq_ofFn {n : Nat} (f : Nat → α → α) (x out : Vector α n) :
    pointwise f x out = Vector.ofFn fun i => f i (x.get i) := by
  ext i hi
  simp [pointwise, hi, Vector.get]

theorem Rhs.computes_affine [Scalar α] (a b c : α) :
    (affine a b c : Rhs σ α).Computes fun _ _ time x =>
      Vector.ofFn fun i => a * x.get i + b * time + c * ((i : Nat) : α) := by
  intro n ctx x out memory
  refine ⟨rfl, ?_⟩
  simp only [affine, pointwise_eq_ofFn]

/-- Rules that fail calls, before or after they are made, make none of them crash. -/
theorem FaultRule.guard_ne_crashed {n : Nat} {rules : List (FaultRule α)}
    (hr : ∀ r ∈ rules, ∃ reason, r.action = .fail reason ∨ r.action = .failAfter reason)
    (ctx : Context α) (hook : Hook) (buffer : Vector α n) (memory : σ)
    {call : Unit → Reply σ α n} (hcall : (call ()).outcome ≠ .crashed) :
    (guard rules ctx hook buffer memory call).outcome ≠ .crashed := by
  rw [guard]
  cases hfind : rules.find? fun r => r.matchesCall ctx hook with
  | none => exact hcall
  | some r =>
    rw [Option.map_some]
    obtain ⟨reason, hfail | hafter⟩ := hr r (List.mem_of_find?_eq_some hfind)
    · rw [hfail]
      simp
    · rw [hafter]
      by_cases hdone : (call ()).outcome = .done
      · simp [hdone]
      · simpa [hdone] using hcall

end MethodOfLines
