import Mathlib.Data.List.Nodup
import MethodOfLines.Proofs.Dispatch

/-!
# Proofs/Validation — which lists of grids can be stepped, and what is reported of the others

Grids are checked in turn, each against those before it.  A grid either **passes** or has one
**fault** (`Grid.passes_or_fault`), and the check of one grid finds out which
(`gridFault?_of_passes`, `gridFault?_of_fault`).  Grids that pass one after the other are a
**valid** list, so the check of a whole list skips its longest valid beginning and stops at the
fault of the grid that comes next (`Stepper.validateFrom_append`).

Sizes are compared, not numbers of points; a set of buffers evolves at least one field, so the two
agree.
-/

namespace MethodOfLines

variable {σ α : Type}

/-! ## Valid lists and faults -/

namespace Grid

/-- **What a list of grids must satisfy**: buffers fit their shapes, ids are distinct, and all grids
evolve the same number of fields. -/
structure Valid (grids : List (Grid α)) : Prop where
  fits : ∀ g ∈ grids, g.functions.points = g.descriptor.points
  distinct : (grids.map Grid.id).Nodup
  even : ∀ g ∈ grids, ∀ g' ∈ grids, g.functions.fields = g'.functions.fields

/-- What a grid must satisfy, given the grids before it. -/
structure Passes (before : List (Grid α)) (g : Grid α) : Prop where
  fits : g.functions.points = g.descriptor.points
  fresh : g.id ∉ before.map Grid.id
  even : ∀ first ∈ before.head?, g.functions.fields = first.functions.fields

/-- **The fault of a grid**, given the grids before it: its shape comes first, then its id, and then
its number of fields, which is compared with that of the first grid. -/
inductive Fault (before : List (Grid α)) (g : Grid α) : GridError → Prop
  | oversized (hsize : 2 ^ 64 ≤ g.descriptor.points * g.functions.fields) :
    Fault before g .pointCountOverflow
  | misfit (hsize : g.descriptor.points * g.functions.fields < 2 ^ 64)
    (hpoints : g.functions.points ≠ g.descriptor.points) :
    Fault before g (.shapeMismatch .state (g.descriptor.points * g.functions.fields)
      (g.functions.points * g.functions.fields))
  | repeated (hpoints : g.functions.points = g.descriptor.points)
    (hid : g.id ∈ before.map Grid.id) : Fault before g (.duplicateGridId g.id)
  | uneven (first : Grid α) (hpoints : g.functions.points = g.descriptor.points)
    (hid : g.id ∉ before.map Grid.id) (hfirst : before.head? = some first)
    (hfields : g.functions.fields ≠ first.functions.fields) :
    Fault before g (.fieldCountMismatch g.id first.functions.fields g.functions.fields)

variable {before after : List (Grid α)} {g : Grid α}

theorem Valid.nil : Valid ([] : List (Grid α)) :=
  ⟨fun _ h => absurd h List.not_mem_nil, List.nodup_nil, fun _ h => absurd h List.not_mem_nil⟩

/-- A grid of a valid list passes, given those before it. -/
theorem Valid.passes (h : Valid (before ++ g :: after)) : Passes before g where
  fits := h.fits g (by simp)
  fresh hmem := by
    have hnodup := h.distinct
    rw [List.map_append, List.map_cons] at hnodup
    exact List.disjoint_of_nodup_append hnodup hmem List.mem_cons_self
  even first hfirst := h.even g (by simp) first (by simp [List.mem_of_mem_head? hfirst])

/-- **A valid list grows** by a grid that passes. -/
theorem Valid.concat (h : Valid before) (hg : Passes before g) : Valid (before ++ [g]) where
  fits g' hg' := by
    rcases List.mem_append.mp hg' with hg' | hg'
    · exact h.fits g' hg'
    · rw [List.mem_singleton.mp hg']
      exact hg.fits
  distinct := by
    rw [List.map_append, List.map_singleton, ← List.concat_eq_append]
    exact List.Nodup.concat hg.fresh h.distinct
  even := by
    -- All grids have as many fields as the first, if there is a grid before `g`.
    have hsame : ∀ g' ∈ before, g'.functions.fields = g.functions.fields := by
      intro g' hg'
      obtain ⟨first, hfirst⟩ := Option.isSome_iff_exists.mp (List.isSome_head?.mpr
        (List.ne_nil_of_mem hg'))
      exact (h.even g' hg' first (List.mem_of_mem_head? hfirst)).trans (hg.even first hfirst).symm
    have hall : ∀ g' ∈ before ++ [g], g'.functions.fields = g.functions.fields := by
      intro g' hg'
      rcases List.mem_append.mp hg' with hg' | hg'
      · exact hsame g' hg'
      · rw [List.mem_singleton.mp hg']
    exact fun g₁ h₁ g₂ h₂ => (hall g₁ h₁).trans (hall g₂ h₂).symm

/-- **A grid passes or has a fault.** -/
theorem passes_or_fault (before : List (Grid α)) (g : Grid α) :
    Passes before g ∨ ∃ e, Fault before g e := by
  by_cases hpoints : g.functions.points = g.descriptor.points
  · by_cases hid : g.id ∈ before.map Grid.id
    · exact .inr ⟨_, .repeated hpoints hid⟩
    · by_cases heven : ∀ first ∈ before.head?, g.functions.fields = first.functions.fields
      · exact .inl ⟨hpoints, hid, heven⟩
      · push Not at heven
        obtain ⟨first, hfirst, hfields⟩ := heven
        exact .inr ⟨_, .uneven first hpoints hid hfirst hfields⟩
  · rcases Nat.lt_or_ge (g.descriptor.points * g.functions.fields) (2 ^ 64) with hsize | hsize
    · exact .inr ⟨_, .misfit hsize hpoints⟩
    · exact .inr ⟨_, .oversized hsize⟩

/-- **A list of grids is valid, or has a first grid with a fault.** -/
theorem valid_or_fault (grids : List (Grid α)) :
    Valid grids ∨ ∃ before g after e, grids = before ++ g :: after ∧ Valid before
      ∧ Fault before g e := by
  induction grids using List.reverseRecOn with
  | nil => exact .inl .nil
  | append_singleton before g ih =>
    rcases ih with hvalid | ⟨before', g', after, e, rfl, hvalid, hfault⟩
    · rcases passes_or_fault before g with hpasses | ⟨e, hfault⟩
      · exact .inl (hvalid.concat hpasses)
      · exact .inr ⟨before, g, [], e, rfl, hvalid, hfault⟩
    · exact .inr ⟨before', g', after ++ [g], e, by simp, hvalid, hfault⟩

end Grid

/-! ## The check of one grid -/

/-- Buffers with the points of a shape fit it. -/
theorem FieldSet.validateAgainst_of_points {f : FieldSet α} {d : Descriptor α}
    (h : f.points = d.points) : f.validateAgainst d = .ok () := by
  have hsize : Word.mul? d.points f.fields = some f.size :=
    Word.mul?_eq_some.mpr ⟨by rw [size, h], f.size_lt⟩
  rw [validateAgainst, hsize]
  exact if_pos rfl

namespace Stepper

open Grid

variable {before : List (Grid α)} {g : Grid α} {fields : Nat}

theorem gridFault?_of_passes (hfields : ∀ first ∈ (before ++ [g]).head?,
      first.functions.fields = fields) (h : Passes before g) :
    gridFault? (before.map Grid.id).reverse fields g = none := by
  have heven : g.functions.fields = fields := by
    cases before with
    | nil => exact hfields g rfl
    | cons first before => exact (h.even first rfl).trans (hfields first rfl)
  simp [gridFault?, FieldSet.validateAgainst_of_points h.fits, h.fresh, heven]

theorem gridFault?_of_fault (hfields : ∀ first ∈ (before ++ [g]).head?,
      first.functions.fields = fields) {e : GridError} (h : Fault before g e) :
    gridFault? (before.map Grid.id).reverse fields g = some e := by
  cases h with
  | oversized hsize =>
    have hnone : Word.mul? g.descriptor.points g.functions.fields = none :=
      if_neg (Nat.not_lt.mpr hsize)
    simp [gridFault?, FieldSet.validateAgainst, hnone]
  | misfit hsize hpoints =>
    have hne : g.functions.size ≠ g.descriptor.points * g.functions.fields :=
      fun h => hpoints (Nat.eq_of_mul_eq_mul_right g.functions.fields_pos h)
    simp only [gridFault?, FieldSet.validateAgainst, Word.mul?_eq_some.mpr ⟨rfl, hsize⟩, if_neg hne]
    rfl
  | repeated hpoints hid =>
    simp [gridFault?, FieldSet.validateAgainst_of_points hpoints, hid]
  | uneven first hpoints hid hfirst hne =>
    have hfirst' : first.functions.fields = fields :=
      hfields first (by simp [List.head?_append, hfirst])
    simp [gridFault?, FieldSet.validateAgainst_of_points hpoints, hid, hne, ← hfirst']

/-! ## The check of a list -/

variable [Scalar α] {s : Stepper σ α}

/-- **The check passes over the beginning of a valid list**, remembering its ids. -/
theorem validateFrom_append (before middle rest : List (Grid α))
    (hfields : ∀ first ∈ (before ++ middle).head?, first.functions.fields = fields)
    (h : Valid (before ++ middle)) :
    (s.validateFrom fields (before.map Grid.id).reverse (middle ++ rest)).1
      = (s.validateFrom fields ((before ++ middle).map Grid.id).reverse rest).1 := by
  induction middle generalizing before with
  | nil => rw [List.append_nil, List.nil_append]
  | cons g middle ih =>
    have hassoc : before ++ g :: middle = before ++ [g] ++ middle := List.append_cons ..
    have hnone : gridFault? (before.map Grid.id).reverse fields g = none := by
      refine gridFault?_of_passes (fun first hfirst => hfields first ?_) h.passes
      rw [hassoc, List.head?_append, Option.mem_def.mp hfirst]
      rfl
    have hseen : g.id :: (before.map Grid.id).reverse = ((before ++ [g]).map Grid.id).reverse := by
      simp
    rw [hassoc] at h hfields ⊢
    simp only [List.cons_append, validateFrom, hnone, hseen]
    exact ih _ hfields h

theorem validateFrom_of_valid {before : List (Grid α)} (rest : List (Grid α))
    (hfields : ∀ first ∈ before.head?, first.functions.fields = fields) (h : Valid before) :
    (s.validateFrom fields [] (before ++ rest)).1
      = (s.validateFrom fields (before.map Grid.id).reverse rest).1 :=
  validateFrom_append [] before rest hfields h

omit [Scalar α] in
/-- What the number of fields of every grid is compared with. -/
theorem fields_of_mem_head? (grids : List (Grid α)) :
    ∀ first ∈ grids.head?,
      first.functions.fields = (grids.head?.map (·.functions.fields)).getD 0 := by
  intro first hfirst
  rw [Option.mem_def.mp hfirst]
  rfl

theorem fst_validateGrids (s : Stepper σ α) (grids : List (Grid α)) :
    (s.validateGrids grids).1 = (s.validateFrom
      ((grids.head?.map (·.functions.fields)).getD 0) [] grids).1.mapError .grid :=
  rfl

/-- A valid list is accepted. -/
theorem validateGrids_of_valid {grids : List (Grid α)} (h : Valid grids) :
    (s.validateGrids grids).1 = .ok () := by
  have hrun := validateFrom_of_valid (s := s) [] (fields_of_mem_head? grids) h
  rw [List.append_nil] at hrun
  rw [fst_validateGrids, hrun]
  rfl

/-- The first fault is reported. -/
theorem validateGrids_of_fault {after : List (Grid α)} {e : GridError} (h : Valid before)
    (hfault : Fault before g e) :
    (s.validateGrids (before ++ g :: after)).1 = .error (.grid e) := by
  have hfields := fields_of_mem_head? (before ++ g :: after)
  rw [fst_validateGrids]
  -- The first grid of the list is the first grid of every beginning that has one.
  generalize ((before ++ g :: after).head?.map (·.functions.fields)).getD 0 = fields at hfields ⊢
  have hbefore : ∀ first ∈ before.head?, first.functions.fields = fields := fun first hfirst =>
    hfields first (by rw [List.head?_append, Option.mem_def.mp hfirst]; rfl)
  have hupto : ∀ first ∈ (before ++ [g]).head?, first.functions.fields = fields :=
    fun first hfirst =>
      hfields first (by rw [List.append_cons, List.head?_append, Option.mem_def.mp hfirst]; rfl)
  rw [validateFrom_of_valid _ hbefore h, validateFrom, gridFault?_of_fault hupto hfault]
  rfl

/-- **Grids are accepted exactly if they are valid, and otherwise the fault of the first grid that
has one is reported.** -/
theorem validateGrids_reports_first_fault (s : Stepper σ α) (grids : List (Grid α)) :
    ((s.validateGrids grids).1 = .ok () ↔ Valid grids)
      ∧ ∀ error, (s.validateGrids grids).1 = .error error ↔
        ∃ before g after e, grids = before ++ g :: after ∧ Valid before ∧ Fault before g e
          ∧ error = .grid e := by
  refine ⟨⟨fun hok => ?_, validateGrids_of_valid⟩, fun error => ⟨fun herror => ?_, ?_⟩⟩
  · rcases valid_or_fault grids with hvalid | ⟨before, g, after, e, rfl, hvalid, hfault⟩
    · exact hvalid
    · cases (validateGrids_of_fault hvalid hfault).symm.trans hok
  · rcases valid_or_fault grids with hvalid | ⟨before, g, after, e, rfl, hvalid, hfault⟩
    · cases (validateGrids_of_valid hvalid).symm.trans herror
    · cases (validateGrids_of_fault hvalid hfault).symm.trans herror
      exact ⟨before, g, after, e, rfl, hvalid, hfault, rfl⟩
  · rintro ⟨before, g, after, e, rfl, hvalid, hfault, rfl⟩
    exact validateGrids_of_fault hvalid hfault

/-- The grid that is reported is the second, which repeats an id, and not the third, whose buffers
do not fit. -/
theorem validateGrids_reports_first_fault_pair :
    let s : Stepper Unit Rat := .heunThird (.affine 1 2 3) .none
    let unfit := holding 3 4 2 (by decide) (by decide) (by decide)
    (s.validateGrids [pair 3 .radiation 1 2, pair 3 .extrapolation 5 6, unfit]).1
      = .error (.grid (.duplicateGridId 3)) := by
  intro s unfit
  refine ((validateGrids_reports_first_fault s _).2 _).mpr ⟨[pair 3 .radiation 1 2],
    pair 3 .extrapolation 5 6, [unfit], .duplicateGridId 3, rfl, ?_, .repeated rfl ?_, rfl⟩
  · exact Valid.nil.concat ⟨rfl, by simp, by simp⟩
  · simp [pair, Grid.id]

end Stepper

end MethodOfLines
