import MethodOfLines.Operator.Basic

/-!
# Operator/Fault — faults put into collaborators

To see how a step fails, a collaborator is wrapped with rules. A rule names a grid, a stage and a
hook, any of which it may leave open, and says what becomes of the calls it matches; the first rule
that matches decides, and a call that none matches goes through.
-/

namespace MethodOfLines

/-- The three places where a collaborator is called. -/
inductive Hook where
  | rhs
  | apply
  | radiation
  deriving DecidableEq, Repr

/-- The name rules know a hook by. -/
def Hook.name : Hook → String
  | rhs => "rhs"
  | apply => "apply"
  | radiation => "radiation"

/-- **What a rule does to a call.** -/
inductive FaultAction (α : Type) where
  /-- Fail without the call being made. -/
  | fail (reason : EvalError)
  /-- Fail once the call has succeeded. -/
  | failAfter (reason : EvalError)
  /-- Write a value once the call has succeeded. -/
  | poke (index : Nat) (value : α)
  /-- Crash without the call being made. -/
  | crash

/-- **A rule**: the calls it is for, and what it does to them. -/
structure FaultRule (α : Type) where
  grid : Option GridId
  stage : Option Nat
  /-- The name of a hook; one that no hook has matches no call. -/
  hook : Option String
  action : FaultAction α

namespace FaultRule

variable {σ α : Type}

/-- Whether what a rule names is what a call has. -/
def agrees {β : Type} [DecidableEq β] (named : Option β) (actual : β) : Bool :=
  named.all (· = actual)

/-- Whether a rule is for a call. -/
def matchesCall (r : FaultRule α) (ctx : Context α) (hook : Hook) : Bool :=
  agrees r.grid ctx.grid.id && agrees r.stage ctx.stage && agrees r.hook hook.name

/-- **A call under rules.** `buffer` and `memory` are what the call starts from, and `call` makes
it. -/
def guard {n : Nat} (rules : List (FaultRule α)) (ctx : Context α) (hook : Hook)
    (buffer : Vector α n) (memory : σ) (call : Unit → Reply σ α n) : Reply σ α n :=
  match (rules.find? fun r => r.matchesCall ctx hook).map FaultRule.action with
  | none => call ()
  | some (.fail reason) => ⟨.failed reason, buffer, memory⟩
  | some .crash => ⟨.crashed, buffer, memory⟩
  | some (.failAfter reason) =>
    let r := call ()
    if r.outcome = .done then { r with outcome := .failed reason } else r
  | some (.poke index value) =>
    let r := call ()
    if r.outcome = .done then
      if index < n then { r with buffer := r.buffer.setIfInBounds index value }
      else { r with outcome := .crashed }
    else r

end FaultRule

/-- **A right-hand side under rules.** -/
def Rhs.faulty {σ α : Type} (rules : List (FaultRule α)) (inner : Rhs σ α) : Rhs σ α where
  name := "faulty"
  evaluate ctx input output memory :=
    FaultRule.guard rules ctx .rhs output memory fun _ => inner.evaluate ctx input output memory

/-- **An enforcer under rules.** -/
def Enforcer.faulty {σ α : Type} (rules : List (FaultRule α)) (inner : Enforcer σ α) :
    Enforcer σ α where
  name := "faulty"
  apply ctx values memory :=
    FaultRule.guard rules ctx .apply values memory fun _ => inner.apply ctx values memory
  applyRadiation ctx input rates memory :=
    FaultRule.guard rules ctx .radiation rates memory fun _ =>
      inner.applyRadiation ctx input rates memory

end MethodOfLines
