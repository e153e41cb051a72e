import MethodOfLines.Proofs.Step

/-!
# Proofs/Independence — grids do not interfere, and which failure surfaces

A grid taken through the stages by itself has a **course**: the rows of the stages, up to the first
that fails.  Grids in one step share streams, and a stage ends for all of them together; still every
grid follows its own course until the first stage in which some course fails.  There the fence asks
the streams in increasing order, and on one stream the grids were served in the order of the list:

    first to surface   =   least (stage, stream, position)

A launch that is refused stands outside this order, as it is refused when it is issued: the first
one in the list ends the first stage, whatever the streams have met by then.
-/

namespace MethodOfLines

variable {σ α : Type}

/-- The error of a result. -/
def StepError.of? {β : Type} : Except StepError β → Option StepError
  | .error error => some error
  | .ok _ => none

theorem StepError.of?_eq_some {β : Type} {result : Except StepError β} {error : StepError} :
    of? result = some error ↔ result = .error error := by
  cases result <;> simp [of?]

/-- How a step failed, if it did. -/
def Advance.failure? [Scalar α] (a : Advance σ α) : Option StepError :=
  StepError.of? a.result

/-! ## The first in an order -/

/-- **Where a failure stands among others.** -/
structure FailureRank where
  /-- The stage that fails, from one. -/
  stage : Nat
  /-- The stream the grid is bound to. -/
  stream : Nat
  /-- Position in the list of grids. -/
  position : Nat

/-- **One failure surfaces rather than another**: its stage is earlier, or its stream is lower, or
its grid stands before. -/
def FailureRank.Before (r r' : FailureRank) : Prop :=
  r.stage < r'.stage ∨ r.stage = r'.stage ∧
    (r.stream < r'.stream ∨ r.stream = r'.stream ∧ r.position < r'.position)

theorem FailureRank.Before.asymm {r r' : FailureRank} (h : r.Before r') : ¬ r'.Before r := by
  unfold Before at h ⊢
  omega

/-- A launch over a grid that is refused is invalid, and the reason is given. -/
theorem Launch.exists_reason_of_forGrid {d : Descriptor α} {fields blockSize : Nat}
    {fault : DispatchFault} (h : forGrid d fields blockSize = .error fault) :
    ∃ reason, fault = .invalidLaunch reason := by
  unfold forGrid make at h
  grind

/-! ## The course of a grid -/

namespace Stepper

variable [Scalar α] (s : Stepper σ α) (clock : Clock α) (memory : σ)

/-- The row of a grid in a stage, with the shape the step was given. -/
def rowAlone (stage : Stage α) (shape g : Grid α) : Executed σ α :=
  Progress.rowOutcome s.operators s.blockSize s.policyOf s.streams stage (callAt clock stage)
    (0, shape) g memory

/-- **The course of a grid through stages**, up to its first error. -/
def course (shape : Grid α) : List (Stage α) → Grid α → Except StepError (Grid α)
  | [], g => .ok g
  | stage :: stages, g =>
    match (s.rowAlone clock memory stage shape g).verdict.error? with
    | some error => .error error
    | none => course shape stages (s.rowAlone clock memory stage shape g).grid

/-- The launch of a grid is refused. -/
def Refuses (g : Grid α) : Prop :=
  ∃ fault, Launch.forGrid g.descriptor g.functions.fields s.blockSize = .error fault

variable {s clock memory}

theorem course_cons_error {stage : Stage α} {stages : List (Stage α)} {shape g : Grid α}
    {error : StepError}
    (h : (s.rowAlone clock memory stage shape g).verdict.error? = some error) :
    s.course clock memory shape (stage :: stages) g = .error error := by
  rw [course, h]

theorem course_cons_done {stage : Stage α} {stages : List (Stage α)} {shape g : Grid α}
    (h : (s.rowAlone clock memory stage shape g).verdict.error? = none) :
    s.course clock memory shape (stage :: stages) g
      = s.course clock memory shape stages (s.rowAlone clock memory stage shape g).grid := by
  rw [course, h]

/-- The row of a grid does not depend on its slot or on what is remembered. -/
theorem rowOutcome_eq_rowAlone (hf : s.operators.Functional) (clock : Clock α) (memory : σ)
    (stage : Stage α) (e : Nat × Grid α) (g : Grid α) (memory' : σ) :
    (Progress.rowOutcome s.operators s.blockSize s.policyOf s.streams stage (callAt clock stage)
        e g memory').verdict = (s.rowAlone clock memory stage e.2 g).verdict
      ∧ (Progress.rowOutcome s.operators s.blockSize s.policyOf s.streams stage (callAt clock stage)
        e g memory').grid = (s.rowAlone clock memory stage e.2 g).grid :=
  Op.executeAll_congr _ _ hf _ g memory' memory

theorem refills_rowAlone {stage : Stage α} {shape g : Grid α} (h : shape.Refills g) :
    shape.Refills (s.rowAlone clock memory stage shape g).grid :=
  h.trans (Binding.refills_outcome s.operators _ _ g memory)

/-- An error in the row of a stage names the stage. -/
theorem stage?_of_rowAlone {shape g : Grid α} (hc : s.operators.NeverCrashOn shape)
    {stage : Stage α} (hg : shape.Refills g) {error : StepError}
    (h : (s.rowAlone clock memory stage shape g).verdict.error? = some error) :
    error.stage? = some stage.number := by
  have hord :
      Binding.Ordinary (callAt clock stage) (s.rowAlone clock memory stage shape g).verdict :=
    Binding.ordinary_row (hc.refills hg) s.blockSize s.policyOf stage (callAt clock stage)
      (Pool.fits_bind (e := (0, shape)) hg s.streams) memory
  rcases hord with hdone | ⟨error', hfailed, hstage⟩
  · rw [hdone] at h
    exact absurd h (by simp [Verdict.error?])
  · rw [hfailed] at h
    obtain rfl := Option.some.inj h
    exact hstage

/-- **An error in a course names one of its stages.** -/
theorem stage?_of_course {shape : Grid α} (hc : s.operators.NeverCrashOn shape)
    {error : StepError} (stages : List (Stage α)) : ∀ {g : Grid α}, shape.Refills g →
      s.course clock memory shape stages g = .error error →
      ∃ stage ∈ stages, error.stage? = some stage.number := by
  induction stages with
  | nil => exact fun _ h => absurd h (by simp [course])
  | cons stage stages ih =>
    intro g hg h
    cases herror : (s.rowAlone clock memory stage shape g).verdict.error? with
    | some error' =>
      rw [course_cons_error herror] at h
      obtain rfl := Except.error.inj h
      exact ⟨stage, List.mem_cons_self, stage?_of_rowAlone hc hg herror⟩
    | none =>
      rw [course_cons_done herror] at h
      obtain ⟨stage', hmem, hstage⟩ := ih (refills_rowAlone hg) h
      exact ⟨stage', List.mem_cons_of_mem _ hmem, hstage⟩

/-! ## One stage -/

theorem refusal?_bind (e : Nat × Grid α) (stage : Stage α) :
    (Pool.bind s.streams e).refusal? s.blockSize stage
      = match Launch.forGrid e.2.descriptor e.2.functions.fields s.blockSize with
        | .error fault => some ⟨stage.kernelName, stage.number, e.2.id, fault⟩
        | .ok _ => none := by
  rw [Binding.refusal?, Binding.launch]
  simp only [Pool.bind, Binding.ofGrid]
  cases Launch.forGrid e.2.descriptor e.2.functions.fields s.blockSize <;> rfl

theorem refusal?_eq_none {e : Nat × Grid α} (h : ¬ s.Refuses e.2) (stage : Stage α) :
    (Pool.bind s.streams e).refusal? s.blockSize stage = none := by
  rw [refusal?_bind]
  cases hl : Launch.forGrid e.2.descriptor e.2.functions.fields s.blockSize with
  | error fault => exact absurd ⟨fault, hl⟩ h
  | ok work => rfl

variable {grids : List (Grid α)} {p : Progress σ α} {current : Nat × Grid α → Grid α}

/-- **A stage without a refusal**: it is done on every grid, or it returns the error of the failing
grid that stands first, by its stream and then by its place in the list. -/
theorem run_stage_cases (hf : s.operators.Functional)
    (hc : ∀ g ∈ grids, s.operators.NeverCrashOn g) (memory : σ)
    (hl : ∀ g ∈ grids, ¬ s.Refuses g) (clock : Clock α) (stage : Stage α)
    (hr : p.pool.Ready s.streams (Pool.slots grids) current)
    (hrefills : ∀ e ∈ Pool.slots grids, e.2.Refills (current e)) :
    (∃ p', Progress.run s.operators (s.stageCommands clock grids stage) p = (.ok (), p')
        ∧ p'.pool.bindings = p.pool.bindings
        ∧ (∀ e ∈ Pool.slots grids,
            (s.rowAlone clock memory stage e.2 (current e)).verdict.error? = none)
        ∧ p'.pool.Ready s.streams (Pool.slots grids)
            fun e => (s.rowAlone clock memory stage e.2 (current e)).grid)
      ∨ ∃ error p', Progress.run s.operators (s.stageCommands clock grids stage) p
          = (.error error, p')
        ∧ ∃ e ∈ Pool.slots grids,
          (s.rowAlone clock memory stage e.2 (current e)).verdict.error? = some error
          ∧ ∀ e' ∈ Pool.slots grids,
            (s.rowAlone clock memory stage e'.2 (current e')).verdict.error? ≠ none →
            e' = e ∨ (Pool.bind s.streams e).stream < (Pool.bind s.streams e').stream
              ∨ (Pool.bind s.streams e).stream = (Pool.bind s.streams e').stream ∧ e.1 < e'.1 := by
  have hnone : ∀ e ∈ Pool.slots grids, (Pool.bind s.streams e).refusal? s.blockSize stage = none :=
    fun e he => refusal?_eq_none (hl e.2 (Pool.mem_of_mem_slots he)) stage
  have hrow := rowOutcome_eq_rowAlone hf clock memory stage
  match hrun : Progress.run s.operators (s.stageCommands clock grids stage) p with
  | (.ok (), p') =>
    obtain ⟨μ, hall, hbind, hready⟩ :=
      Progress.ready_of_run_forStage hr (Pool.nodup_slots grids) hrun
    refine .inl ⟨p', rfl, hbind, fun e he => ?_, hready.congr fun e _ => (hrow e _ _).2⟩
    rw [← (hrow e (current e) (μ e.1)).1, (hall e he).2]
    rfl
  | (.error error, p') =>
    obtain ⟨μ, hresult⟩ := Progress.run_forStage hr (Pool.nodup_slots grids)
      (fun e he => Progress.rowOutcome_ne_crashed (hc e.2 (Pool.mem_of_mem_slots he)) s.blockSize
        s.policyOf stage (callAt clock stage) (hrefills e he)) hnone
    have hfirst := StepError.result_eq_error.mp (hresult.symm.trans (congrArg Prod.fst hrun))
    simp only [fun e g memory' => (hrow e g memory').1] at hfirst
    -- the first stream with an error, and the first grid with an error on it
    obtain ⟨i, -, hon, hstreams⟩ := List.exists_first_of_findSome? hr.sorted hfirst
    obtain ⟨e, hmem, herror, hgrids⟩ :=
      List.exists_first_of_findSome? ((Pool.pairwise_slots grids).filter _) hon
    obtain ⟨he, hi⟩ := List.mem_filter.mp hmem
    obtain rfl := of_decide_eq_true hi
    refine .inr ⟨error, p', rfl, e, he, herror, fun e' he' herror' => ?_⟩
    have hindex := Pool.mem_indices_of_grid? (hr.grids e' he')
    rcases hstreams _ hindex fun hnone => herror' (List.findSome?_eq_none_iff.mp hnone e'
      (List.mem_filter.mpr ⟨he', by simp⟩)) with hsame | hlt
    · rcases hgrids e' (List.mem_filter.mpr ⟨he', by simp [hsame]⟩) herror' with rfl | hlt
      · exact .inl rfl
      · exact .inr (.inr ⟨hsame.symm, hlt⟩)
    · exact .inr (.inl hlt)

/-! ## All stages -/

/-- The rank of a failure of a grid in a stage. -/
def rankOf (s : Stepper σ α) (stage : Nat) (e : Nat × Grid α) : FailureRank :=
  ⟨stage, streamFor e.2.id s.streams, e.1⟩

/-- A failure in the first of some stages surfaces before every failure that is not before it in
that stage. -/
theorem before_of_course {e e' : Nat × Grid α} (hc : s.operators.NeverCrashOn e'.2)
    {stage : Stage α} {stages : List (Stage α)}
    (hlater : ∀ stage' ∈ stages, stage.number < stage'.number) {g : Grid α} (hg : e'.2.Refills g)
    (hfirst : (s.rowAlone clock memory stage e'.2 g).verdict.error? ≠ none →
      e' = e ∨ (Pool.bind s.streams e).stream < (Pool.bind s.streams e').stream
        ∨ (Pool.bind s.streams e).stream = (Pool.bind s.streams e').stream ∧ e.1 < e'.1)
    {error : StepError}
    (herror : s.course clock memory e'.2 (stage :: stages) g = .error error) :
    e' = e ∨ ∃ n, error.stage? = some n
      ∧ (s.rankOf stage.number e).Before (s.rankOf n e') := by
  cases hrow : (s.rowAlone clock memory stage e'.2 g).verdict.error? with
  | some error' =>
    -- a failure in the same stage
    rw [course_cons_error hrow] at herror
    obtain rfl := Except.error.inj herror
    rcases hfirst (by simp [hrow]) with rfl | hlt
    · exact .inl rfl
    · exact .inr ⟨stage.number, stage?_of_rowAlone hc hg hrow, .inr ⟨rfl, hlt⟩⟩
  | none =>
    -- a failure in a later stage
    rw [course_cons_done hrow] at herror
    obtain ⟨stage', hmem, hstage'⟩ := stage?_of_course hc stages (refills_rowAlone hg) herror
    exact .inr ⟨stage'.number, hstage', .inl (hlater stage' hmem)⟩

/-- **Stages without a refusal**: every grid follows its own course, or the step returns the error
of the course that comes first. -/
theorem run_stages_cases (hf : s.operators.Functional)
    (hc : ∀ g ∈ grids, s.operators.NeverCrashOn g) (memory : σ)
    (hl : ∀ g ∈ grids, ¬ s.Refuses g) (stages : List (Stage α)) :
    stages.Pairwise (·.number < ·.number) → ∀ {p : Progress σ α} {current : Nat × Grid α → Grid α},
    p.pool.Ready s.streams (Pool.slots grids) current →
    (∀ e ∈ Pool.slots grids, e.2.Refills (current e)) →
    (∃ p' final, Progress.run s.operators (stages.flatMap (s.stageCommands clock grids)) p
          = (.ok (), p')
        ∧ p'.pool.bindings = p.pool.bindings
        ∧ (∀ e ∈ Pool.slots grids, s.course clock memory e.2 stages (current e) = .ok (final e))
        ∧ p'.pool.Ready s.streams (Pool.slots grids) final)
      ∨ ∃ error p', Progress.run s.operators (stages.flatMap (s.stageCommands clock grids)) p
          = (.error error, p')
        ∧ ∃ e ∈ Pool.slots grids, ∃ n, s.course clock memory e.2 stages (current e) = .error error
          ∧ error.stage? = some n
          ∧ ∀ e' ∈ Pool.slots grids, ∀ error',
            s.course clock memory e'.2 stages (current e') = .error error' →
            e' = e ∨ ∃ n', error'.stage? = some n' ∧ (s.rankOf n e).Before (s.rankOf n' e') := by
  induction stages with
  | nil => exact fun _ p current hr _ => .inl ⟨p, current, rfl, rfl, fun _ _ => rfl, hr⟩
  | cons stage stages ih =>
    intro hsorted p current hr hrefills
    obtain ⟨hlater, hsorted⟩ := List.pairwise_cons.mp hsorted
    rw [List.flatMap_cons, Progress.run_append]
    rcases run_stage_cases hf hc memory hl clock stage hr hrefills with
      ⟨p', hrun, hbind, hdone, hready⟩ | ⟨error, p', hrun, e, he, herror, hfirst⟩
    · have hcourse : ∀ e ∈ Pool.slots grids, s.course clock memory e.2 (stage :: stages) (current e)
          = s.course clock memory e.2 stages
              (s.rowAlone clock memory stage e.2 (current e)).grid :=
        fun e he => course_cons_done (hdone e he)
      rw [hrun]
      rcases ih hsorted hready fun e he => refills_rowAlone (hrefills e he) with
        ⟨q, final, hrest, hbind', hok, hleft⟩ | ⟨error, q, hrest, e, he, n, herror, hn, hfirst⟩
      · exact .inl ⟨q, final, hrest, hbind'.trans hbind,
          fun e he => (hcourse e he).trans (hok e he), hleft⟩
      · refine .inr ⟨error, q, hrest, e, he, n, (hcourse e he).trans herror, hn,
          fun e' he' error' herror' => hfirst e' he' error' ?_⟩
        rw [← hcourse e' he', herror']
    · rw [hrun]
      exact .inr ⟨error, p', rfl, e, he, stage.number, course_cons_error herror,
        stage?_of_rowAlone (hc e.2 (Pool.mem_of_mem_slots he)) (hrefills e he) herror,
        fun e' he' error' herror' => before_of_course (hc e'.2 (Pool.mem_of_mem_slots he')) hlater
          (hrefills e' he') (hfirst e' he') herror'⟩

/-! ## The failure that surfaces -/

/-- **The grid whose failure surfaces**, given how each grid fails by itself: the first whose launch
is refused; or, if there is none, the one of least rank among those that fail. -/
inductive Surfaces (s : Stepper σ α) (failure? : Grid α → Option StepError)
    (grids : List (Grid α)) : Nat → Grid α → Prop
  | refused {i : Nat} {g : Grid α} (hg : grids[i]? = some g) (h : s.Refuses g)
      (hfirst : ∀ j g', j < i → grids[j]? = some g' → ¬ s.Refuses g') :
      Surfaces s failure? grids i g
  | failed {i n : Nat} {g : Grid α} {error : StepError} (hl : ∀ g ∈ grids, ¬ s.Refuses g)
      (hg : grids[i]? = some g) (herror : failure? g = some error) (hn : error.stage? = some n)
      (hfirst : ∀ j g' error', grids[j]? = some g' → failure? g' = some error' →
        j = i ∨ ∃ n', error'.stage? = some n' ∧ (s.rankOf n (i, g)).Before (s.rankOf n' (j, g'))) :
      Surfaces s failure? grids i g

theorem Surfaces.getElem? {failure? : Grid α → Option StepError} {i : Nat} {g : Grid α}
    (h : s.Surfaces failure? grids i g) : grids[i]? = some g := by
  cases h with
  | refused hg => exact hg
  | failed _ hg => exact hg

/-- Which failure surfaces depends on the failures of the grids in the list only. -/
theorem Surfaces.congr {failure? failure?' : Grid α → Option StepError}
    (hfun : ∀ g ∈ grids, failure? g = failure?' g) {i : Nat} {g : Grid α}
    (h : s.Surfaces failure? grids i g) : s.Surfaces failure?' grids i g := by
  cases h with
  | refused hg h hfirst => exact .refused hg h hfirst
  | failed hl hg herror hn hfirst =>
    refine .failed hl hg (hfun g (List.mem_of_getElem? hg) ▸ herror) hn
      fun j g' error' hg' herror' => hfirst j g' error' hg' ?_
    rw [hfun g' (List.mem_of_getElem? hg'), herror']

/-- At most one grid is the one whose failure surfaces. -/
theorem Surfaces.unique {failure? : Grid α → Option StepError} {i i' : Nat} {g g' : Grid α}
    (h : s.Surfaces failure? grids i g) (h' : s.Surfaces failure? grids i' g') : i' = i := by
  cases h with
  | refused hg hrefuses hfirst =>
    cases h' with
    | refused hg' hrefuses' hfirst' =>
      rcases Nat.lt_trichotomy i' i with hlt | heq | hgt
      · exact absurd hrefuses' (hfirst i' g' hlt hg')
      · exact heq
      · exact absurd hrefuses (hfirst' i g hgt hg)
    | failed hl => exact absurd hrefuses (hl g (List.mem_of_getElem? hg))
  | failed hl hg herror hn hfirst =>
    cases h' with
    | refused hg' hrefuses' => exact absurd hrefuses' (hl g' (List.mem_of_getElem? hg'))
    | failed hl' hg' herror' hn' hfirst' =>
      rcases hfirst i' g' _ hg' herror' with heq | ⟨m', hm', hbefore⟩
      · exact heq
      · rcases hfirst' i g _ hg herror with heq | ⟨m, hm, hbefore'⟩
        · exact heq.symm
        · obtain rfl := Option.some.inj (hm'.symm.trans hn')
          obtain rfl := Option.some.inj (hm.symm.trans hn)
          exact absurd hbefore' hbefore.asymm

/-- The error of a grid whose launch is refused. -/
def refusalOf (s : Stepper σ α) (g : Grid α) (fault : DispatchFault) : StepError :=
  .dispatch ⟨(s.plan.tableau.stage 0).kernelName, 1, g.id, fault⟩

/-- **What becomes of a grid by itself**: its launch is refused, or it follows its course. -/
def fate (s : Stepper σ α) (clock : Clock α) (memory : σ) (g : Grid α) :
    Except StepError (Grid α) :=
  match Launch.forGrid g.descriptor g.functions.fields s.blockSize with
  | .error fault => .error (s.refusalOf g fault)
  | .ok _ => s.course clock memory g s.plan.stages g

theorem fate_of_refused {g : Grid α} {fault : DispatchFault}
    (h : Launch.forGrid g.descriptor g.functions.fields s.blockSize = .error fault) :
    s.fate clock memory g = .error (s.refusalOf g fault) := by
  rw [fate, h]

theorem fate_of_launched {g : Grid α} (h : ¬ s.Refuses g) :
    s.fate clock memory g = s.course clock memory g s.plan.stages g := by
  rw [fate]
  cases hl : Launch.forGrid g.descriptor g.functions.fields s.blockSize with
  | error fault => exact absurd ⟨fault, hl⟩ h
  | ok work => rfl

theorem pairwise_stages (s : Stepper σ α) : s.plan.stages.Pairwise (·.number < ·.number) := by
  rw [Plan.stages, List.pairwise_map]
  exact List.pairwise_lt_range.imp fun h => Nat.succ_lt_succ h

theorem length_stages (s : Stepper σ α) : s.plan.stages.length = s.plan.tableau.stages := by
  rw [Plan.stages, List.length_map, List.length_range]

/-- A plan has a first stage. -/
theorem exists_stages_eq_cons (s : Stepper σ α) :
    ∃ stages, s.plan.stages = s.plan.tableau.stage 0 :: stages := by
  obtain ⟨k, hk⟩ := Nat.exists_eq_succ_of_ne_zero (Nat.pos_iff_ne_zero.mp s.plan.tableau.stages_pos)
  refine ⟨((List.range k).map Nat.succ).map s.plan.tableau.stage, ?_⟩
  rw [Plan.stages, Tableau.stages, hk, List.range_succ_eq_map, List.map_cons]

/-- **The first launch that is refused**, as a stage finds it. -/
theorem exists_first_refused (h : ∃ g ∈ grids, s.Refuses g) (stage : Stage α) :
    ∃ (i : Nat) (g : Grid α) (fault : DispatchFault), grids[i]? = some g
      ∧ Launch.forGrid g.descriptor g.functions.fields s.blockSize = .error fault
      ∧ (∀ j g', j < i → grids[j]? = some g' → ¬ s.Refuses g')
      ∧ ((Pool.slots grids).map (Pool.bind s.streams)).findSome? (·.refusal? s.blockSize stage)
        = some ⟨stage.kernelName, stage.number, g.id, fault⟩ := by
  rw [List.findSome?_map]
  have hvalue : ∀ {i : Nat} {g : Grid α}, s.Refuses g →
      (Pool.bind s.streams (i, g)).refusal? s.blockSize stage ≠ none := by
    rintro i g ⟨fault, hfault⟩
    rw [refusal?_bind, hfault]
    simp
  obtain ⟨error, herror⟩ : ∃ error, (Pool.slots grids).findSome?
      ((·.refusal? s.blockSize stage) ∘ Pool.bind s.streams) = some error := by
    obtain ⟨g, hg, hrefuses⟩ := h
    obtain ⟨i, hi⟩ := List.mem_iff_getElem?.mp hg
    exact Option.ne_none_iff_exists'.mp fun hnone =>
      hvalue hrefuses (List.findSome?_eq_none_iff.mp hnone (i, g) (Pool.mem_slots.mpr hi))
  obtain ⟨e, he, hrefusal, hfirst⟩ :=
    List.exists_first_of_findSome? (Pool.pairwise_slots grids) herror
  rw [Function.comp_apply, refusal?_bind] at hrefusal
  cases hl : Launch.forGrid e.2.descriptor e.2.functions.fields s.blockSize with
  | ok work => simp [hl] at hrefusal
  | error fault =>
    rw [hl] at hrefusal
    refine ⟨e.1, e.2, fault, Pool.mem_slots.mp he, hl, fun j g' hj hg' hrefuses => ?_,
      herror.trans hrefusal.symm⟩
    rcases hfirst (j, g') (Pool.mem_slots.mpr hg') (hvalue hrefuses) with rfl | hlt
    · exact Nat.lt_irrefl _ hj
    · exact Nat.lt_asymm hj hlt

/-- **A launch that is refused ends the step in its first stage**, with the first refusal in the
list. -/
theorem run_refused (hc : ∀ g ∈ grids, s.operators.NeverCrashOn g) (clock : Clock α) (memory : σ)
    {g : Grid α} {fault : DispatchFault}
    (h : ((Pool.slots grids).map (Pool.bind s.streams)).findSome?
        (·.refusal? s.blockSize (s.plan.tableau.stage 0))
      = some ⟨(s.plan.tableau.stage 0).kernelName, (s.plan.tableau.stage 0).number, g.id, fault⟩) :
    ∃ p', Progress.run s.operators (s.plan.stages.flatMap (s.stageCommands clock grids))
      (s.begin clock grids memory) = (.error (s.refusalOf g fault), p') := by
  obtain ⟨stages, hstages⟩ := s.exists_stages_eq_cons
  have hrun : (Progress.run s.operators (s.stageCommands clock grids (s.plan.tableau.stage 0))
      (s.begin clock grids memory)).1 = .error (s.refusalOf g fault) :=
    Progress.run_forStage_refused (s.ready_begin clock grids memory) (Pool.nodup_slots grids)
      (fun e he => Progress.rowOutcome_ne_crashed (hc e.2 (Pool.mem_of_mem_slots he)) s.blockSize
        s.policyOf _ _ (.refl _)) h
  rw [hstages, List.flatMap_cons, Progress.run_append]
  match hq : Progress.run s.operators (s.stageCommands clock grids (s.plan.tableau.stage 0))
      (s.begin clock grids memory) with
  | (.ok (), q) => rw [hq] at hrun; cases hrun
  | (.error error, q) =>
    rw [hq] at hrun
    obtain rfl := Except.error.inj hrun
    exact ⟨q, rfl⟩

/-! ## Steps of many grids and of one -/

/-- **How a step over a list ends, from what becomes of each grid by itself.** -/
theorem step_cases (hp : s.poisoned = false) (hf : s.operators.Functional)
    {grids : List (Grid α)} (hc : ∀ g ∈ grids, s.operators.NeverCrashOn g) (clock : Clock α)
    (memory memory' : σ) :
    (∃ F : Grid α → Grid α, (∀ g ∈ grids, s.fate clock memory' g = .ok (F g))
        ∧ (s.step clock grids memory).failure? = none
        ∧ (s.step clock grids memory).grids = grids.map F)
      ∨ ∃ i g error, s.Surfaces (fun g => StepError.of? (s.fate clock memory' g)) grids i g
        ∧ s.fate clock memory' g = .error error
        ∧ (s.step clock grids memory).failure? = some error := by
  by_cases hl : ∃ g ∈ grids, s.Refuses g
  · obtain ⟨i, g, fault, hg, hfault, hfirst, hrefusal⟩ :=
      exists_first_refused hl (s.plan.tableau.stage 0)
    obtain ⟨p', hrun⟩ := run_refused hc clock memory hrefusal
    refine .inr ⟨i, g, s.refusalOf g fault, .refused hg ⟨fault, hfault⟩ hfirst,
      fate_of_refused hfault, ?_⟩
    rw [step_of_run_error hp hrun]
    rfl
  · have hl : ∀ g ∈ grids, ¬ s.Refuses g := fun g hg hrefuses => hl ⟨g, hg, hrefuses⟩
    have hfate : ∀ e ∈ Pool.slots grids, s.fate clock memory' e.2
        = s.course clock memory' e.2 s.plan.stages e.2 := fun e he =>
      fate_of_launched (hl e.2 (Pool.mem_of_mem_slots he))
    rcases run_stages_cases hf hc memory' hl s.plan.stages s.pairwise_stages
      (s.ready_begin clock grids memory) (fun _ _ => .refl _) with
      ⟨p', final, hrun, hbind, hok, hready⟩ | ⟨error, p', hrun, e, he, n, herror, hn, hfirst⟩
    · refine .inl ⟨fun g => (s.fate clock memory' g).toOption.getD g, fun g hg => ?_, ?_, ?_⟩
      · obtain ⟨i, hi⟩ := List.mem_iff_getElem?.mp hg
        have he : (i, g) ∈ Pool.slots grids := Pool.mem_slots.mpr hi
        have hfinal : s.fate clock memory' g = .ok (final (i, g)) := (hfate _ he).trans (hok _ he)
        simp only [hfinal, Except.toOption, Option.getD_some]
      · rw [step_of_run_ok hp hrun]
        rfl
      · rw [step_of_run_ok hp hrun]
        refine Pool.grids_eq_map (hbind.trans (Pool.bindings_spawn ..)) fun e he => ?_
        rw [hready.grids e he, (hfate e he).trans (hok e he)]
        rfl
    · refine .inr ⟨e.1, e.2, error, .failed hl (Pool.mem_slots.mp he) ?_ hn ?_,
        (hfate e he).trans herror, ?_⟩
      · rw [hfate e he, herror]
        rfl
      · intro j g' error' hg' herror'
        have he' : (j, g') ∈ Pool.slots grids := Pool.mem_slots.mpr hg'
        have hcourse := (hfate _ he').symm.trans (StepError.of?_eq_some.mp herror')
        rcases hfirst (j, g') he' error' hcourse with rfl | hbefore
        · exact .inl rfl
        · exact .inr hbefore
      · rw [step_of_run_error hp hrun]
        rfl

/-- A step over one grid shows what becomes of the grid. -/
theorem step_singleton (hp : s.poisoned = false) (hf : s.operators.Functional)
    {g : Grid α} (hc : s.operators.NeverCrashOn g) (clock : Clock α) (memory memory' : σ) :
    (s.step clock [g] memory).failure? = StepError.of? (s.fate clock memory' g)
      ∧ ∀ g', s.fate clock memory' g = .ok g' → (s.step clock [g] memory).grids = [g'] := by
  rcases step_cases hp hf (List.forall_mem_singleton.mpr hc) clock memory memory' with
    ⟨F, hok, hfailure, hgrids⟩ | ⟨i, g', error, hsurfaces, hfate, hfailure⟩
  · have hfate := hok g List.mem_cons_self
    refine ⟨by rw [hfailure, hfate]; rfl, fun g' hg' => ?_⟩
    rw [hgrids, List.map_singleton, Except.ok.inj (hfate.symm.trans hg')]
  · obtain rfl : g' = g := List.mem_singleton.mp (List.mem_of_getElem? hsurfaces.getElem?)
    exact ⟨by rw [hfailure, hfate]; rfl, fun _ h => absurd (hfate.symm.trans h) (by simp)⟩

/-- **A grid in a step with others does what it does alone.**  A step over a list succeeds if and
only if it does over each grid by itself, and leaves each grid as it is left there.  If it fails, it
fails as one of the grids does by itself: the one whose failure surfaces.  If the launch of that
grid was refused, the error says so, and names the first stage. -/
theorem step_eq_steps_alone (s : Stepper σ α) (hp : s.poisoned = false)
    (hf : s.operators.Functional) (clock : Clock α) (grids : List (Grid α))
    (hc : ∀ g ∈ grids, s.operators.NeverCrashOn g) (memory memory' : σ) :
    let alone g := s.step clock [g] memory'
    let joint := s.step clock grids memory
    (joint.failure? = none ↔ ∀ g ∈ grids, (alone g).failure? = none)
      ∧ (joint.failure? = none → joint.grids.map ([·]) = grids.map fun g => (alone g).grids)
      ∧ ∀ error, joint.failure? = some error →
          ∃ i g, s.Surfaces (fun g => (alone g).failure?) grids i g
            ∧ (∀ i' g', s.Surfaces (fun g => (alone g).failure?) grids i' g' → i' = i)
            ∧ (alone g).failure? = some error
            ∧ (s.Refuses g → ∃ reason, error = s.refusalOf g (.invalidLaunch reason)) := by
  intro alone joint
  have halone := fun g hg => step_singleton hp hf (hc g hg) clock memory' memory'
  have hfun : ∀ g ∈ grids, StepError.of? (s.fate clock memory' g) = (alone g).failure? :=
    fun g hg => (halone g hg).1.symm
  rcases step_cases hp hf hc clock memory memory' with
    ⟨F, hok, hfailure, hgrids⟩ | ⟨i, g, error, hsurfaces, hfate, hfailure⟩
  · have hall : ∀ g ∈ grids, (alone g).failure? = none := fun g hg => by
      rw [(halone g hg).1, hok g hg]
      rfl
    refine ⟨⟨fun _ => hall, fun _ => hfailure⟩, fun _ => ?_, fun error herror => ?_⟩
    · rw [hgrids, List.map_map]
      exact List.map_congr_left fun g hg => ((halone g hg).2 (F g) (hok g hg)).symm
    · exact absurd (hfailure.symm.trans herror) (by simp)
  · have hjoint : joint.failure? ≠ none := by rw [hfailure]; simp
    have hg : g ∈ grids := List.mem_of_getElem? hsurfaces.getElem?
    refine ⟨⟨fun h => absurd h hjoint, fun h => ?_⟩, fun h => absurd h hjoint,
      fun error' herror' => ?_⟩
    · have hnone := h g hg
      rw [(halone g hg).1, hfate] at hnone
      exact absurd hnone (by simp [StepError.of?])
    · obtain rfl := Option.some.inj (hfailure.symm.trans herror')
      have hsurfaces := hsurfaces.congr hfun
      refine ⟨i, g, hsurfaces, fun i' g' h' => hsurfaces.unique h', ?_, ?_⟩
      · rw [(halone g hg).1, hfate]
        rfl
      · rintro ⟨fault, hfault⟩
        obtain ⟨reason, rfl⟩ := Launch.exists_reason_of_forGrid hfault
        exact ⟨reason, Except.error.inj (hfate.symm.trans (fate_of_refused hfault))⟩

/-- Two of three grids fail in the second stage.  The one on the lower stream surfaces, though it
stands later in the list. -/
theorem step_eq_steps_alone_heunThird :
    let rule (id : GridId) : FaultRule Rat :=
      ⟨some id, some 2, none, .fail (.executionFailed "out of range")⟩
    let s : Stepper Unit Rat := .heunThird (.faulty [rule 1, rule 2] (.affine 1 2 3)) .none
    let clock : Clock Rat := ⟨0, 1, 0⟩
    let grids := [Grid.pair 4 .radiation 1 2, Grid.pair 1 .radiation 3 4,
      Grid.pair 2 .extrapolation 5 6]
    let error := StepError.rhsFailed 2 2 (.executionFailed "out of range")
    (s.step clock grids ()).failure? = some error
      ∧ ∃ i g, s.Surfaces (fun g => (s.step clock [g] ()).failure?) grids i g
        ∧ (s.step clock [g] ()).failure? = some error := by
  intro rule s clock grids error
  have hc : ∀ g ∈ grids, s.operators.NeverCrashOn g :=
    fun g _ => neverCrash_heunThird (by simp [rule]) 1 2 3 g
  obtain ⟨-, -, hfailed⟩ :=
    s.step_eq_steps_alone rfl s.operators.functional clock grids hc () ()
  have hjoint : (s.step clock grids ()).failure? = some error := by decide +kernel
  obtain ⟨i, g, hsurfaces, -, hfailure, -⟩ := hfailed error hjoint
  exact ⟨hjoint, i, g, hsurfaces, hfailure⟩

end Stepper

end MethodOfLines
