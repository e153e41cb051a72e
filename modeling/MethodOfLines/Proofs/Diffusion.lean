import MethodOfLines.Proofs.Finite
import MethodOfLines.Proofs.Restart
import MethodOfLines.Proofs.Stencil
import MethodOfLines.Proofs.Success

/-!
# Proofs/Diffusion — steps of diffusion with zero gradient at the boundary

On grids with ghost points whose buffers fit, diffusion and the copying into the ghost points never
fail (`Operators.Diffuse.succeedOn`), so a step over such grids ends as `Stepper.Ends.of_succeeds`
says.  In the recursion of a grid the rates are those of all its fields, and what a stage leaves is
filled (`Stepper.rate_diffusion`, `Stepper.settle_diffusion`).
-/

namespace MethodOfLines

variable {σ α : Type}

/-- The size of a call's fields, on a grid whose buffers fit. -/
theorem Context.size_eq {ctx : Context α} {g : Grid α} (hgrid : ctx.grid = g.descriptor)
    (hfields : ctx.fields = g.functions.fields) (hsize : g.functions.points = g.descriptor.points) :
    ctx.fields * ctx.points = g.functions.points * g.functions.fields := by
  rw [points, hgrid, hfields, hsize, Nat.mul_comm]

variable [Scalar α]

/-- **Collaborators of a run of diffusion.** -/
structure Operators.Diffuse (ops : Operators σ α) (coefficient : α) : Prop where
  rhs : ops.rhs = .diffusion coefficient
  boundary : ops.boundary = .ghostCopy

namespace Operators.Diffuse

variable {ops : Operators σ α} {coefficient : α} (h : ops.Diffuse coefficient)

include h in
theorem functional : ops.Functional := by
  refine ⟨fun ctx x out memory memory' => ?_, h.boundary ▸ Enforcer.functional_ghostCopy⟩
  rw [h.rhs]
  by_cases hg : ctx.grid.ghosts = 0 <;> simp [Rhs.diffusion, hg]

include h in
theorem overwrites : ops.rhs.Overwrites := h.rhs ▸ Rhs.overwrites_diffusion coefficient

variable {g : Grid α} (hg : 1 ≤ g.descriptor.ghosts)
  (hsize : g.functions.points = g.descriptor.points)

variable {ctx : Context α} (hgrid : ctx.grid = g.descriptor)
  (hfields : ctx.fields = g.functions.fields)

include h hg hsize hgrid hfields in
/-- **A call of the right-hand side is done and accesses nothing out of range.** -/
theorem evaluate_eq_some (x out : Vector α (g.functions.points * g.functions.fields)) (memory : σ) :
    (ops.rhs.evaluate ctx x out memory).outcome = .done
      ∧ diffuseFields? coefficient ctx.grid ctx.fields x (Vector.replicate _ 0)
        = some (ops.rhs.evaluate ctx x out memory).buffer := by
  have hfits := Context.size_eq hgrid hfields hsize
  have hghosts : 1 ≤ ctx.grid.ghosts := hgrid ▸ hg
  obtain ⟨hdone, hbuffer⟩ := Rhs.evaluate_diffusion coefficient hfits hghosts x out memory
  rw [h.rhs]
  exact ⟨hdone, hbuffer ▸ diffuseFields?_eq_some coefficient (Nat.le_of_eq hfits)
    (Nat.le_of_eq hfits) hghosts x _⟩

include h hsize hgrid hfields in
/-- **A call of the enforcer is done and accesses nothing out of range.** -/
theorem apply_eq_some (v : Vector α (g.functions.points * g.functions.fields)) (memory : σ) :
    (ops.boundary.apply ctx v memory).outcome = .done
      ∧ fillFields? ctx.grid ctx.fields v = some (ops.boundary.apply ctx v memory).buffer := by
  have hfits := Context.size_eq hgrid hfields hsize
  obtain ⟨hdone, hbuffer⟩ := Enforcer.apply_ghostCopy hfits v memory
  rw [h.boundary]
  exact ⟨hdone, hbuffer ▸ fillFields?_eq_some (Nat.le_of_eq hfits) v⟩

include h hg hsize in
/-- **The collaborators succeed on a grid with ghost points whose buffers fit**, if rates are not
searched for values that are not finite, or all numbers are. -/
theorem succeedOn (hfinite : ops.checkFinite = true → ∀ x : α, Scalar.isFinite x = true) :
    ops.SucceedsOn g := by
  refine ⟨fun ctx hgrid hfields x out memory => ?_, fun ctx _ _ x rates memory => ?_,
    fun ctx hgrid hfields v memory => ?_⟩
  · refine ⟨(h.evaluate_eq_some hg hsize hgrid hfields x out memory).1, fun hc => ?_⟩
    exact (checkFinite_eq_ok_iff ctx.grid.points_pos).mpr fun y _ => hfinite hc y
  · rw [h.boundary]
    rfl
  · exact (h.apply_eq_some hsize hgrid hfields v memory).1

end Operators.Diffuse

namespace Stepper

variable {s : Stepper σ α} {coefficient : α} (h : s.operators.Diffuse coefficient)
  {g : Grid α} (hg : 1 ≤ g.descriptor.ghosts)
  (hsize : g.functions.points = g.descriptor.points)
  (hcondition : s.boundaryFor g = .extrapolation) (clock : Clock α) (memory : σ)

include h hg hsize hcondition in
/-- The rates of a stage are those of every field. -/
theorem rate_diffusion (i : Nat) (x : Vector α (g.functions.points * g.functions.fields)) :
    (s.recursion clock memory g).rate i x
      = diffuseFields coefficient g.descriptor g.functions.fields x (Vector.replicate _ 0) := by
  have hfits : (s.contextAt clock g i).fields * (s.contextAt clock g i).points = _ :=
    Context.size_eq rfl rfl hsize
  have hrate := (Rhs.evaluate_diffusion coefficient hfits hg x (Vector.replicate _ 0) memory).2
  simp only [recursion, Operators.slopeOf, hcondition, h.rhs, reduceCtorEq, decide_false,
    Bool.false_eq_true, if_false]
  exact hrate

include h hsize hcondition in
/-- What a stage leaves is filled. -/
theorem settle_diffusion (i : Nat) (v : Vector α (g.functions.points * g.functions.fields)) :
    (s.recursion clock memory g).settle i v = fillFields g.descriptor g.functions.fields v := by
  have hfits : (s.contextAt clock g i).fields * (s.contextAt clock g i).points = _ :=
    Context.size_eq rfl rfl hsize
  have hsettle := (Enforcer.apply_ghostCopy hfits v memory).2
  simp only [recursion, Operators.settled, hcondition, h.boundary, decide_true, if_true]
  exact hsettle

end Stepper

end MethodOfLines
