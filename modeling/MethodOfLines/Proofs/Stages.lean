import Mathlib.Data.List.Perm.Subperm
import MethodOfLines.Proofs.Calls

/-!
# Proofs/Stages — how far a step has come, in whole stages

Streams share no order, but what was carried out on each is a beginning of what was asked of it.  So
whatever the schedule, what was carried out is, but for its order, a part of what was asked for
(`Machine.Follows.performed_subperm`), and all of it when a fence has just passed
(`Machine.Follows.performed_perm`).

The requests before a fence are those of whole stages (`Request.exists_stages_of_fence`), and every
stage asks for one evaluation per grid; so the evaluations before a fence and up to it can be
counted (`Stepper.exists_ratesIn_of_fence`).
-/

namespace MethodOfLines

variable {σ α : Type}

/-! ## Lists that agree key by key -/

section Keys

variable {β κ : Type} [DecidableEq κ] (key : β → κ) {l l' : List β}

theorem count_filter_key [DecidableEq β] (x : β) (l : List β) :
    (l.filter fun y => key y = key x).count x = l.count x :=
  List.count_filter (decide_eq_true rfl)

theorem subperm_of_filter
    (h : ∀ t, l.filter (fun x => key x = t) <+: l'.filter fun x => key x = t) :
    l.Subperm l' := by
  classical
  refine List.subperm_ext_iff.mpr fun x _ => ?_
  rw [← count_filter_key key x l, ← count_filter_key key x l']
  exact (h (key x)).sublist.count_le x

theorem perm_of_filter (h : ∀ t, l.filter (fun x => key x = t) = l'.filter fun x => key x = t) :
    l.Perm l' := by
  classical
  refine List.perm_iff_count.mpr fun x => ?_
  rw [← count_filter_key key x l, ← count_filter_key key x l', h]

end Keys

/-! ## All work of some requests -/

namespace Request

/-- The work a request brings. -/
def work? : Request α → Option (Nat × Op α)
  | .submit b _ op => some (b.slot, op)
  | .fence _ => none

/-- **The work requests bring**, to all streams, in the order of issue. -/
def work (l : List (Request α)) : List (Nat × Op α) := l.filterMap work?

@[simp] theorem work_append (l l' : List (Request α)) : work (l ++ l') = work l ++ work l' :=
  List.filterMap_append

@[simp] theorem work_fence (stage : Stage α) : work [.fence stage] = [] := rfl

/-- The work for a stream is what its slots have of all work. -/
theorem filter_work {home : Nat → StreamIndex} {l : List (Request α)}
    (h : ∀ {b call op}, .submit b call op ∈ l → home b.slot = b.stream) (t : StreamIndex) :
    (work l).filter (fun x => home x.1 = t) = workFor t l := by
  rw [work, List.filter_filterMap, workFor]
  refine List.filterMap_congr fun r hr => ?_
  cases r with
  | fence stage => rfl
  | submit b call op =>
    have hb := h hr
    simp only [work?, workFor?, Option.filter_some, hb, decide_eq_true_eq]

end Request

namespace Machine

variable [Scalar α] {ops : Operators σ α} {origin : StreamIndex → Worker α}
  {home : Nat → StreamIndex} {requests before current : List (Request α)} {m : Machine σ α}

/-- **What was carried out is, but for its order, a part of what was asked for.** -/
theorem Follows.performed_subperm (ho : Request.Orderly home requests)
    (h : m.Follows ops origin home requests before current) :
    m.performed.Subperm (Request.work (before ++ current)) := by
  refine subperm_of_filter (fun x => home x.1) fun t => ?_
  rw [Request.filter_work fun hr => ho.home (h.answers.isPrefix.subset hr)]
  exact h.filter_performed_isPrefix ho t

/-- **When a fence has just passed, what was carried out is what was asked for**, but for its
order. -/
theorem Follows.performed_perm (ho : Request.Orderly home requests)
    (h : m.Follows ops origin home requests before []) :
    m.performed.Perm (Request.work before) := by
  refine perm_of_filter (fun x => home x.1) fun t => ?_
  rw [Request.filter_work fun hr =>
    ho.home (h.answers.isPrefix.subset (List.mem_append_left _ hr))]
  exact h.filter_performed_eq ho t

end Machine

/-! ## Requests up to a fence -/

namespace Request

/-- Requests are divided by their first fence in one way. -/
theorem eq_of_first_fence {stage stage' : Stage α} :
    ∀ {l l' r r' : List (Request α)}, l ++ .fence stage :: r = l' ++ .fence stage' :: r' →
      (∀ x, .fence x ∉ l) → (∀ x, .fence x ∉ l') → l = l' ∧ stage = stage' ∧ r = r' := by
  intro l
  induction l with
  | nil =>
    intro l' r r' h _ hl'
    cases l' with
    | nil =>
      obtain ⟨hstage, hrest⟩ := List.cons.inj h
      exact ⟨rfl, fence.inj hstage, hrest⟩
    | cons a l' =>
      obtain ⟨rfl, -⟩ := List.cons.inj h
      exact absurd List.mem_cons_self (hl' stage)
  | cons a l ih =>
    intro l' r r' h hl hl'
    cases l' with
    | nil =>
      obtain ⟨rfl, -⟩ := List.cons.inj h
      exact absurd List.mem_cons_self (hl stage')
    | cons b l' =>
      obtain ⟨rfl, hrest⟩ := List.cons.inj h
      obtain ⟨rfl, hstage, hr⟩ := ih hrest (fun x hx => hl x (List.mem_cons_of_mem _ hx))
        fun x hx => hl' x (List.mem_cons_of_mem _ hx)
      exact ⟨rfl, hstage, hr⟩

/-- **What precedes a fence are whole stages**, and the rest of its own.  Every stage is some
requests and then its fence; `before` ends with a fence, and there is none in `current`. -/
theorem exists_stages_of_fence {f : Stage α → List (Request α)}
    (hf : ∀ stage, ∃ rows, f stage = rows ++ [.fence stage] ∧ ∀ x, .fence x ∉ rows)
    {current rest : List (Request α)} {stage : Stage α} (hfree : ∀ x, .fence x ∉ current)
    {stages : List (Stage α)} :
    ∀ {before : List (Request α)}, (before = [] ∨ ∃ l x, before = l ++ [.fence x]) →
      stages.flatMap f = before ++ current ++ .fence stage :: rest →
      ∃ past later, stages = past ++ stage :: later ∧ before = past.flatMap f
        ∧ current ++ [.fence stage] = f stage := by
  induction stages with
  | nil =>
    intro before _ h
    simp at h
  | cons first stages ih =>
    intro before hclosed h
    obtain ⟨rows, hrows, hrowsfree⟩ := hf first
    rw [List.flatMap_cons, hrows, List.append_assoc, List.singleton_append] at h
    rcases hclosed with rfl | ⟨l, x, hbefore⟩
    · -- the first fence is the one of the first stage
      obtain ⟨rfl, rfl, -⟩ := eq_of_first_fence h hrowsfree hfree
      exact ⟨[], stages, rfl, rfl, hrows.symm⟩
    · have hlast : .fence x ∈ before := by
        rw [hbefore]
        exact List.mem_append_right _ List.mem_cons_self
      rw [List.append_assoc] at h
      -- the first stage ends within `before`: the fence at the end of `before` is not in its rows
      rcases List.append_eq_append_iff.mp h with ⟨_ | ⟨r, more⟩, hsplit, hmore⟩ | ⟨_, hsplit, -⟩
      · rw [List.append_nil] at hsplit
        exact absurd (hsplit ▸ hlast) (hrowsfree x)
      · rw [List.cons_append] at hmore
        obtain ⟨rfl, hlater⟩ := List.cons.inj hmore
        have hclosed : more = [] ∨ ∃ l x, more = l ++ [.fence x] := by
          obtain rfl | ⟨init, last, rfl⟩ := more.eq_nil_or_concat'
          · exact .inl rfl
          · rw [hbefore, ← List.cons_append, ← List.append_assoc] at hsplit
            obtain ⟨-, heq⟩ := List.append_inj' hsplit rfl
            exact .inr ⟨init, x, by rw [heq]⟩
        rw [← List.append_assoc] at hlater
        obtain ⟨past, later, rfl, rfl, hstage⟩ := ih hclosed hlater
        refine ⟨first :: past, later, rfl, ?_, hstage⟩
        rw [hsplit, List.flatMap_cons, hrows, List.append_assoc, List.singleton_append]
      · exact absurd (hsplit ▸ List.mem_append_left _ hlast) (hrowsfree x)

end Request

/-! ## Evaluations asked for -/

/-- Whether an operation evaluates the right-hand side. -/
def Op.isRates : Op α → Bool
  | .evaluateRhs .. => true
  | _ => false

/-- The number of evaluations in some work. -/
def ratesIn (work : List (Nat × Op α)) : Nat := work.countP (·.2.isRates)

@[simp] theorem ratesIn_append (l l' : List (Nat × Op α)) :
    ratesIn (l ++ l') = ratesIn l + ratesIn l' := List.countP_append

@[simp] theorem ratesIn_nil : ratesIn ([] : List (Nat × Op α)) = 0 := rfl

section Asks

variable (blockSize : Nat) (policy : Descriptor α → BoundaryPolicy) (stage : Stage α)
  (call : StageCall α)

/-- A row evaluates in one way. -/
theorem Binding.eq_rates_of_mem_row {b : Binding α} {op : Op α}
    (hop : op ∈ b.row blockSize policy stage call) (hr : op.isRates = true) :
    op = .rates stage call := by
  rcases cases_of_mem_row blockSize policy stage call hop with rfl | rfl | ⟨_, -, rfl⟩ | rfl
  · rfl
  · cases hr
  · cases hr
  · cases hr

/-- A stage evaluates the rates of a grid once. -/
theorem Binding.ratesIn_asks (b : Binding α) :
    ratesIn (Request.work (b.asks blockSize policy stage call)) = 1 := by
  rw [asks, row]
  cases b.launch blockSize stage <;> cases (policy b.descriptor).afterRhs <;>
    cases (policy b.descriptor).afterStage <;> rfl

theorem ratesIn_flatMap_asks (bs : List (Binding α)) :
    ratesIn (Request.work (bs.flatMap (Binding.asks blockSize policy stage call))) = bs.length := by
  induction bs with
  | nil => rfl
  | cons b bs ih =>
    rw [List.flatMap_cons, Request.work_append, ratesIn_append, Binding.ratesIn_asks, ih,
      List.length_cons, Nat.add_comm]

end Asks

namespace Stepper

variable [Scalar α] {s : Stepper σ α} {clock : Clock α} {grids : List (Grid α)}

theorem ratesIn_asks (s : Stepper σ α) (clock : Clock α) (grids : List (Grid α))
    (stage : Stage α) : ratesIn (Request.work (s.asks clock grids stage)) = grids.length := by
  rw [asks, Request.work_append, ratesIn_append, ratesIn_flatMap_asks, List.length_map,
    Pool.length_slots, Request.work_fence, ratesIn_nil, Nat.add_zero]

/-- **A stage asks for one evaluation per grid.** -/
theorem ratesIn_stages (s : Stepper σ α) (clock : Clock α) (grids : List (Grid α))
    (stages : List (Stage α)) :
    ratesIn (Request.work (stages.flatMap (s.asks clock grids)))
      = stages.length * grids.length := by
  induction stages with
  | nil => exact (Nat.zero_mul _).symm
  | cons stage stages ih =>
    rw [List.flatMap_cons, Request.work_append, ratesIn_append, ratesIn_asks, ih, List.length_cons,
      Nat.succ_mul, Nat.add_comm]

/-- A stage is numbered by the stages before it. -/
theorem number_of_stages_eq {past later : List (Stage α)} {stage : Stage α}
    (h : s.plan.stages = past ++ stage :: later) :
    stage.number = past.length + 1 ∧ past.length < s.plan.tableau.stages := by
  have hlt : past.length < s.plan.tableau.stages := by
    rw [← s.length_stages, h, List.length_append, List.length_cons]
    omega
  have hget : s.plan.stages[past.length]? = some stage := by simp [h]
  rw [Plan.stages, List.getElem?_map, List.getElem?_range hlt] at hget
  exact ⟨by rw [← Option.some.inj hget]; rfl, hlt⟩

/-- **The evaluations before the last fence and up to the next**: those of the stages before, and
one more for every grid. -/
theorem exists_ratesIn_of_fence {before current rest : List (Request α)} {stage : Stage α}
    (h : s.agenda clock grids = before ++ current ++ .fence stage :: rest)
    (hclosed : before = [] ∨ ∃ l x, before = l ++ [.fence x]) (hfree : ∀ x, .fence x ∉ current) :
    ∃ i < s.plan.tableau.stages, stage.number = i + 1
      ∧ ratesIn (Request.work before) = i * grids.length
      ∧ ratesIn (Request.work (before ++ current)) = (i + 1) * grids.length := by
  have hasks : ∀ stage, ∃ rows, s.asks clock grids stage = rows ++ [.fence stage]
      ∧ ∀ x, .fence x ∉ rows := by
    refine fun stage => ⟨_, rfl, fun x hx => ?_⟩
    obtain ⟨b, -, hx⟩ := List.mem_flatMap.mp hx
    obtain ⟨op, -, hx⟩ := List.mem_map.mp hx
    cases hx
  obtain ⟨past, later, hstages, rfl, hstage⟩ :=
    Request.exists_stages_of_fence hasks hfree hclosed h
  obtain ⟨hnumber, hlt⟩ := number_of_stages_eq hstages
  have hcurrent := s.ratesIn_asks clock grids stage
  rw [← hstage, Request.work_append, ratesIn_append, Request.work_fence, ratesIn_nil,
    Nat.add_zero] at hcurrent
  refine ⟨past.length, hlt, hnumber, s.ratesIn_stages clock grids past, ?_⟩
  rw [Request.work_append, ratesIn_append, s.ratesIn_stages clock grids past, hcurrent,
    Nat.succ_mul]

end Stepper

end MethodOfLines
