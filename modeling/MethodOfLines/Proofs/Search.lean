import MethodOfLines.Proofs.Evaluations

/-!
# Proofs/Search — the search for values that are not finite only filters

Two steppers that differ only in whether they search the rates make the same moves, under the same
schedule, until an evaluation succeeds with a value that is not finite (`Machine.run_searching`); if
none does, the steps end in the same way (`Stepper.stepUnder_searching`).  If one does, the search
finds it, and the step that searches fails (`Stepper.search_only_filters`).
-/

namespace MethodOfLines

variable {σ α : Type}

/-! ## Collaborators and steppers, with and without the search -/

namespace Operators

/-- The collaborators, with the search for values that are not finite turned on or off. -/
def searching (ops : Operators σ α) (search : Bool) : Operators σ α :=
  { ops with checkFinite := search }

variable {ops : Operators σ α}

theorem Functional.searching (h : ops.Functional) (search : Bool) :
    (ops.searching search).Functional := ⟨h.rhs, h.boundary⟩

theorem NeverCrashOn.searching {g : Grid α} (h : ops.NeverCrashOn g) (search : Bool) :
    (ops.searching search).NeverCrashOn g := ⟨h.rhs, h.radiation, h.apply⟩

end Operators

variable [Scalar α]

/-- The stepper, with the search for values that are not finite turned on or off. -/
def Stepper.searching (s : Stepper σ α) (search : Bool) : Stepper σ α :=
  { s with operators := s.operators.searching search }

namespace Advance

/-- The end of a step, with the search of its stepper turned on or off. -/
def searching (a : Advance σ α) (search : Bool) : Advance σ α :=
  { a with stepper := a.stepper.searching search }

variable {a b c : Advance σ α}

theorem Agrees.symm (h : a.Agrees b) : b.Agrees a :=
  ⟨h.result.symm, h.stepper.symm, h.clock.symm, h.grids.symm, h.events.symm⟩

theorem Agrees.trans (h : a.Agrees b) (h' : b.Agrees c) : a.Agrees c :=
  ⟨h.result.trans h'.result, h.stepper.trans h'.stepper, h.clock.trans h'.clock,
    h.grids.trans h'.grids, h.events.trans h'.events⟩

theorem Agrees.searching (h : a.Agrees b) (search : Bool) :
    (a.searching search).Agrees (b.searching search) :=
  ⟨h.result, congrArg (·.searching search) h.stepper, h.clock, h.grids, h.events⟩

end Advance

/-! ## The same moves -/

omit [Scalar α] in
@[simp] theorem Op.evaluation?_searching (ops : Operators σ α) (search : Bool)
    (stream : StreamIndex) (slot : Nat) (g : Grid α) (memory : σ) (op : Op α) :
    op.evaluation? (ops.searching search) stream slot g memory
      = op.evaluation? ops stream slot g memory := by
  cases op <;> rfl

omit [Scalar α] in
@[simp] theorem Machine.evaluation?_searching (ops : Operators σ α) (search : Bool)
    (m : Machine σ α) (actor : Actor) :
    m.evaluation? (ops.searching search) actor = m.evaluation? ops actor := by
  cases actor <;> simp only [evaluation?, Lane.evaluation?, Worker.evaluation?,
    Op.evaluation?_searching]

/-- **An operation does the same with and without the search**, if it leaves no rates that are not
finite. -/
theorem Op.execute_searching {ops : Operators σ α} {stream : StreamIndex} {slot : Nat} {g : Grid α}
    {memory : σ} {op : Op α}
    (h : ∀ e ∈ op.evaluation? ops stream slot g memory, ¬ e.NotFinite)
    (params : Option (Params α)) (search : Bool) :
    op.execute (ops.searching search) stream params g memory
      = op.execute (ops.searching false) stream params g memory := by
  cases op with
  | evaluateRhs call input output =>
    simp only [execute, executeRhs]
    cases hpair : g.functions.buffers.pair? input output with
    | none => rfl
    | some pair =>
      have he := Evaluation.verdict_of_finite (h _ (congrArg (Option.map _) hpair)) search
      exact congrArg (Executed.mk · _ _) he
  | _ => rfl

/-- **A worker does the same with and without the search.** -/
theorem Worker.perform_searching {ops : Operators σ α} {w : Worker α} {slot : Nat} {op : Op α}
    {memory : σ} (h : ∀ e ∈ w.evaluation? ops slot op memory, ¬ e.NotFinite) (search : Bool) :
    w.perform (ops.searching search) slot op memory
      = w.perform (ops.searching false) slot op memory := by
  by_cases hs : w.status = .done
  · rw [evaluation?, if_pos hs] at h
    cases hg : w.grid? slot with
    | some g =>
      rw [hg, Option.bind_some] at h
      by_cases hop : op.IsWork
      · rw [perform_work _ hs hg hop, perform_work _ hs hg hop, Op.execute_searching h]
      · obtain ⟨params, rfl⟩ : ∃ params, op = .syncParams params := by simpa [Op.IsWork] using hop
        rw [perform_sync _ hs, perform_sync _ hs]
    | none =>
      rw [perform_of_status _ hs, perform_of_status _ hs]
      cases op <;> simp only [execute, hg]
  · rw [perform_of_status_ne _ hs, perform_of_status_ne _ hs]

theorem Lane.advance?_searching {ops : Operators σ α} {lane : Lane α} {memory : σ}
    (h : ∀ e ∈ lane.evaluation? ops memory, ¬ e.NotFinite) (search : Bool) :
    lane.advance? (ops.searching search) memory = lane.advance? (ops.searching false) memory := by
  rw [evaluation?] at h
  rcases hq : lane.queue with _ | ⟨⟨slot, op⟩ | _, rest⟩
  · simp only [advance?, hq]
  · rw [hq] at h
    simp only [advance?, hq, Worker.perform_searching h]
  · simp only [advance?, hq]

namespace Machine

variable {ops : Operators σ α} {d : Discipline} {m : Machine σ α}

/-- **A move is the same with and without the search**, if it leaves no rates that are not
finite. -/
theorem move?_searching {actor : Actor} (h : ∀ e ∈ m.evaluation? ops actor, ¬ e.NotFinite)
    (search : Bool) :
    m.move? (ops.searching search) d actor = m.move? (ops.searching false) d actor := by
  cases actor with
  | issuer => rfl
  | worker t =>
    simp only [move?, worker?]
    cases hfind : m.lanes.find? (·.stream.index = t) with
    | none => simp only [Option.bind_eq_bind, Option.bind_none]
    | some lane =>
      rw [evaluation?, hfind, Option.bind_some] at h
      simp only [Option.bind_eq_bind, Option.bind_some, Lane.advance?_searching h]

/-- **A run is the same with and without the search**, with the same evaluations, if none of them
succeeds with a value that is not finite. -/
theorem run_searching {search : Bool} (schedule : Schedule) : ∀ {m : Machine σ α},
    (∀ e ∈ m.evaluations (ops.searching search) d schedule, ¬ e.NotFinite) → ∀ search',
      m.run (ops.searching search') d schedule = m.run (ops.searching search) d schedule
        ∧ m.evaluations (ops.searching search') d schedule
          = m.evaluations (ops.searching search) d schedule := by
  induction schedule with
  | nil =>
    intro m _ search'
    simp only [run, List.foldl_nil, evaluations, and_self]
  | cons actor schedule ih =>
    intro m h search'
    rw [evaluations, evaluation?_searching] at h
    have hnext : ∀ e ∈ m.evaluation? ops actor, ¬ e.NotFinite := fun e he =>
      h e (List.mem_append_left _ (Option.mem_toList.mpr he))
    have hmove : m.move? (ops.searching search') d actor = m.move? (ops.searching search) d actor :=
      (move?_searching hnext search').trans (move?_searching hnext search).symm
    obtain ⟨hrun, heval⟩ := ih (fun e he => h e (List.mem_append_right _ he)) search'
    rw [run_cons, run_cons, evaluations, evaluations, evaluation?_searching, evaluation?_searching,
      hmove, hrun, heval]
    exact ⟨rfl, rfl⟩

end Machine

/-! ## The same end -/

namespace Stepper

variable {s : Stepper σ α} {clock : Clock α} {grids : List (Grid α)} {memory : σ}
  {schedule : Schedule}

@[simp] theorem begin_searching (search : Bool) :
    (s.searching search).begin clock grids memory = s.begin clock grids memory := rfl

@[simp] theorem commands_searching (search : Bool) (bindings : List (Binding α)) :
    (s.searching search).commands clock bindings = s.commands clock bindings := rfl

@[simp] theorem requests_searching (search : Bool) :
    (s.searching search).requests clock grids memory = s.requests clock grids memory := by
  rw [requests, requests, begin_searching, commands_searching]

theorem conclude_searching (answers : List (Except StepError Unit)) (pool : Pool σ α)
    (search : Bool) :
    (s.searching search).conclude clock grids memory answers pool
      = (s.conclude clock grids memory answers pool).searching search := by
  simp only [conclude, begin_searching, commands_searching]
  rcases (s.begin clock grids memory).replay
    (s.commands clock (s.begin clock grids memory).pool.bindings) answers with ⟨_ | _, p⟩ <;> rfl

/-- **A step ends in the same way with and without the search**, under the same schedule and with
the same evaluations, if none of them succeeds with a value that is not finite. -/
theorem stepUnder_searching {search : Bool}
    (h : ∀ e ∈ (s.searching search).evaluations clock grids memory schedule, ¬ e.NotFinite)
    (search' : Bool) :
    (s.searching search').stepUnder clock grids memory schedule
        = ((s.searching search).stepUnder clock grids memory schedule).map (·.searching search')
      ∧ (s.searching search').evaluations clock grids memory schedule
        = (s.searching search).evaluations clock grids memory schedule := by
  by_cases hp : s.poisoned = true
  · rw [stepUnder_of_poisoned (s := s.searching search') hp,
      stepUnder_of_poisoned (s := s.searching search) hp, evaluations, evaluations,
      if_pos (show (s.searching search').poisoned = true from hp),
      if_pos (show (s.searching search).poisoned = true from hp)]
    exact ⟨rfl, rfl⟩
  · have hp' : ∀ c, ¬ (s.searching c).poisoned = true := fun _ => hp
    rw [evaluations, if_neg (hp' search), requests_searching] at h
    obtain ⟨hrun, heval⟩ := Machine.run_searching schedule h search'
    have hmachine : (s.searching search').machine clock grids memory schedule
        = (s.searching search).machine clock grids memory schedule := by
      rw [machine, machine, requests_searching, requests_searching]
      exact hrun
    rw [stepUnder_eq (hp' search'), stepUnder_eq (hp' search), hmachine, conclude_searching,
      conclude_searching, evaluations, evaluations, if_neg (hp' search), if_neg (hp' search'),
      requests_searching, requests_searching]
    refine ⟨?_, heval⟩
    split <;> rfl

variable {a b : Advance σ α}

/-- In a step that succeeds with the search, no evaluation left a value that is not finite. -/
theorem finite_of_ok (ha : (s.searching true).stepUnder clock grids memory schedule = some a)
    {report : Report α} (hok : a.result = .ok report) :
    ∀ e ∈ (s.searching true).evaluations clock grids memory schedule, ¬ e.NotFinite :=
  fun _ he hnot => hnot.verdict_ne (verdict_of_ok ha hok he)

/-- With or without the search, a step ends in the same way under every schedule. -/
theorem agrees_of_stepUnder_searching (hf : s.operators.Functional)
    (hc : ∀ g ∈ grids, s.operators.NeverCrashOn g) {schedule' : Schedule} {search : Bool}
    (ha : (s.searching search).stepUnder clock grids memory schedule = some a)
    (hb : (s.searching search).stepUnder clock grids memory schedule' = some b) : a.Agrees b :=
  have hf' := hf.searching search
  have hc' := fun g hg => (hc g hg).searching search
  (agrees_of_stepUnder (s := s.searching search) hf' hc' ha).trans
    (agrees_of_stepUnder (s := s.searching search) hf' hc' hb).symm

section

variable (hf : s.operators.Functional) (hc : ∀ g ∈ grids, s.operators.NeverCrashOn g)
  {schedule' : Schedule}
  (ha : (s.searching true).stepUnder clock grids memory schedule = some a)
  (hb : (s.searching false).stepUnder clock grids memory schedule' = some b)

include hf hc ha hb

/-- **A step that succeeds with the search succeeds without it**, in the same way. -/
theorem agrees_of_search_ok {report : Report α} (hok : a.result = .ok report) :
    a.Agrees (b.searching true) := by
  have hsame := stepUnder_searching (finite_of_ok ha hok)
  obtain ⟨hself, -⟩ := hsame true
  obtain ⟨hother, -⟩ := hsame false
  rw [ha, Option.map_some] at hself hother
  rw [Option.some.inj hself]
  exact (agrees_of_stepUnder_searching hf hc hother hb).searching true

/-- **A step without values that are not finite ends in the same way with the search.** -/
theorem agrees_of_finite
    (h : ∀ e ∈ (s.searching false).evaluations clock grids memory schedule', ¬ e.NotFinite) :
    a.Agrees (b.searching true) := by
  obtain ⟨hother, -⟩ := stepUnder_searching h true
  rw [hb, Option.map_some] at hother
  exact agrees_of_stepUnder_searching hf hc ha hother

omit hb in
/-- **The search fails a step with a value that is not finite.**  Under the schedule of the step
without the search, continued to the end, the search cannot have passed the evaluation. -/
theorem exists_error_of_notFinite {e : Evaluation α}
    (he : e ∈ (s.searching false).evaluations clock grids memory schedule') (hnot : e.NotFinite) :
    ∃ error, a.result = .error error := by
  cases hr : a.result with
  | error error => exact ⟨error, rfl⟩
  | ok report =>
    obtain ⟨more, hmore⟩ :=
      (s.searching true).exists_stepUnder_append clock grids memory schedule'
    obtain ⟨b', hb'⟩ := Option.isSome_iff_exists.mp hmore
    have hagrees := agrees_of_stepUnder_searching hf hc hb' ha
    have hfinite := finite_of_ok hb' (hagrees.result.trans hr)
    have hmem : e ∈ (s.searching false).evaluations clock grids memory (schedule' ++ more) :=
      (evaluations_isPrefix ..).subset he
    rw [(stepUnder_searching hfinite false).2] at hmem
    exact absurd hnot (hfinite e hmem)

end

/-- **The search for values that are not finite only filters.**  Take a step with the search and one
without, under any schedules; each can be continued to an end.  If the one with the search succeeds,
both end in the same way; so they do if no evaluation of the one without succeeds with a value that
is not finite; and if one does, the step with the search fails.  If it fails with a value that is
not finite, named by its field and point, then an evaluation for that grid and stage says so itself,
or this is the first such value it left; and the kernel that would have used the rates did not
run. -/
theorem search_only_filters {s : Stepper σ α} (hp : s.poisoned = false)
    (hf : s.operators.Functional) {grids : List (Grid α)}
    (hc : ∀ g ∈ grids, s.operators.NeverCrashOn g)
    (hfits : ∀ g ∈ grids, g.functions.points = g.descriptor.points) (clock : Clock α) (memory : σ) :
    (∀ search schedule,
        ∃ more,
          ((s.searching search).stepUnder clock grids memory (schedule ++ more)).isSome = true)
      ∧ ∀ {schedule schedule' a b},
        (s.searching true).stepUnder clock grids memory schedule = some a →
        (s.searching false).stepUnder clock grids memory schedule' = some b →
        (∀ {report}, a.result = .ok report → a.Agrees (b.searching true))
          ∧ ((∀ e ∈ (s.searching false).evaluations clock grids memory schedule', ¬ e.NotFinite) →
            a.Agrees (b.searching true))
          ∧ ((∃ e ∈ (s.searching false).evaluations clock grids memory schedule', e.NotFinite) →
            ∃ error, a.result = .error error)
          ∧ ∀ {id n field point},
            a.result = .error (.rhsFailed id n (.nanDetected field (some point))) →
            ∃ e ∈ (s.searching true).evaluations clock grids memory schedule,
              (∃ g, grids[e.slot]? = some g ∧ g.id = id ∧ e.context.grid = g.descriptor
                ∧ e.context.fields = g.functions.fields) ∧ e.context.stage = n
              ∧ (e.outcome = .failed (.nanDetected field (some point))
                ∨ e.outcome = .done ∧ e.FirstAt field point)
              ∧ ∀ {call kernel buffer work}, (e.slot, .launch call kernel buffer work)
                  ∈ (s.searching true).carriedOut clock grids memory schedule →
                call.number ≠ n := by
  refine ⟨fun search => (s.searching search).exists_stepUnder_append clock grids memory,
    fun {schedule schedule' a b} ha hb => ⟨agrees_of_search_ok hf hc ha hb,
      agrees_of_finite hf hc ha hb,
      fun ⟨e, he, hnot⟩ => exists_error_of_notFinite hf hc ha he hnot,
      fun {id n field point} hr => ?_⟩⟩
  obtain ⟨e, he, hv, hkernel⟩ := exists_evaluation_of_rhsFailed (s := s.searching true) hp ha hr
  obtain ⟨hid, hn, hreason⟩ := Evaluation.verdict_eq_failed hv
  obtain ⟨g, hg, hgrid, hfields, hsize⟩ := exists_grid_of_mem_evaluations he
  refine ⟨e, he, ⟨g, hg, ?_, hgrid, hfields⟩, hn, hreason.imp_right fun ⟨ho, hfound⟩ =>
    ⟨ho, Evaluation.firstAt_of_checkFinite ?_ hfound⟩, hkernel⟩
  · rw [hgrid] at hid
    exact hid
  · rw [hsize, hfits g (List.mem_of_getElem? hg), Context.points, hgrid, hfields]

end Stepper

/-! ## Numbers that are finite or not -/

/-- **Numbers of which only this is known, whether they are finite.** -/
inductive Magnitude where
  | finite
  | infinite
  deriving DecidableEq

/-- What is computed from a number that is not finite is not finite. -/
def Magnitude.join : Magnitude → Magnitude → Magnitude
  | .finite, y => y
  | .infinite, _ => .infinite

instance instScalarMagnitude : Scalar Magnitude where
  zero := .finite
  one := .finite
  neg x := x
  add := Magnitude.join
  sub := Magnitude.join
  mul := Magnitude.join
  div := Magnitude.join
  natCast _ := .finite
  fma x y z := (x.join y).join z
  isFinite x := x = .finite
  isZero x := x = .finite
  isPositive x := x = .finite

/-- A grid of three points, of which the first and the last are finite. -/
def Grid.beside (id : GridId) (y : Magnitude) : Grid Magnitude where
  descriptor :=
    { id
      boundary := .extrapolation
      interior := ⟨3, 1, 1⟩
      ghosts := 0
      spacing := .uniform 1
      interior_pos := ⟨Nat.succ_pos 2, Nat.one_pos, Nat.one_pos⟩
      points_lt := Nat.le_of_ble_eq_true rfl }
  functions :=
    { points := 3
      fields := 1
      buffers := { Buffers.fill 3 .finite with state := #v[.finite, y, .finite] }
      fields_pos := Nat.one_pos
      size_lt := Nat.le_of_ble_eq_true rfl }

namespace Stepper

/-- Euler's method on two streams, with rates that are finite where the values are. -/
def eulerMagnitude : Stepper Unit Magnitude where
  plan := ⟨Tableau.euler, rfl⟩
  operators := { rhs := .linear 1, boundary := .none, checkFinite := true }
  outerBoundary := none
  streams := 2
  blockSize := 1
  phase := .awaitingStage 1
  poisoned := false
  lastMetrics := {}
  streams_pos := Nat.two_pos
  blockSize_pos := Nat.one_pos
  blockSize_le := Launch.pair.blockSize_le

/-- The second value of grid 3 is not finite.  Without the search the step succeeds; with it, it
fails and says where. -/
theorem search_only_filters_euler :
    let s := eulerMagnitude
    let clock : Clock Magnitude := ⟨.finite, .finite, 0⟩
    let grids := [Grid.beside 0 .finite, Grid.beside 3 .infinite]
    let schedule := List.replicate 11 Actor.issuer ++ List.replicate 5 (.worker 1)
      ++ List.replicate 5 (.worker 0) ++ [.issuer]
    ∃ a b, (s.searching true).stepUnder clock grids () schedule = some a
      ∧ (s.searching false).stepUnder clock grids () schedule = some b
      ∧ (b.result.map fun _ => ()) = .ok ()
      ∧ a.result = .error (.rhsFailed 3 1 (.nanDetected 0 (some 1)))
      ∧ ∃ e ∈ (s.searching true).evaluations clock grids () schedule, e.FirstAt 0 1 := by
  intro s clock grids schedule
  have hf : s.operators.Functional := s.operators.functional
  have hc : ∀ g ∈ grids, s.operators.NeverCrashOn g := fun g _ =>
    ⟨by simp [s, eulerMagnitude, Rhs.linear], by simp [s, eulerMagnitude, Enforcer.none],
      by simp [s, eulerMagnitude, Enforcer.none]⟩
  have hfits : ∀ g ∈ grids, g.functions.points = g.descriptor.points := by decide
  have ha : ((s.searching true).stepUnder clock grids () schedule).map
      (fun a => a.result.map fun _ => ())
      = some (.error (.rhsFailed 3 1 (.nanDetected 0 (some 1)))) := by decide +kernel
  have hb : ((s.searching false).stepUnder clock grids () schedule).map
      (fun b => b.result.map fun _ => ()) = some (.ok ()) := by decide +kernel
  obtain ⟨a, ha, hra⟩ := Option.map_eq_some_iff.mp ha
  obtain ⟨b, hb, hrb⟩ := Option.map_eq_some_iff.mp hb
  obtain ⟨-, -, hfails, hnames⟩ := (search_only_filters rfl hf hc hfits clock ()).2 ha hb
  obtain ⟨error, herror⟩ := hfails (by decide +kernel)
  rw [herror] at hra
  obtain rfl := Except.error.inj hra
  obtain ⟨e, he, -, -, ho, -⟩ := hnames herror
  have hdone : ∀ e ∈ (s.searching true).evaluations clock grids () schedule, e.outcome = .done := by
    decide +kernel
  rw [hdone e he] at ho
  exact ⟨a, b, ha, hb, hrb, herror, e, he, (ho.resolve_left (by simp)).2⟩

end Stepper

end MethodOfLines
