import MethodOfLines.Binary64.Scalar
import MethodOfLines.Diffusion.Profile
import MethodOfLines.Proofs.Diffusion
import MethodOfLines.Proofs.Validation

/-!
# Proofs/Profile — every profile runs

The cubes of a profile are made if their points can be counted (`Profile.exists_bump`), and what is
made has one filled field (`Profile.Cube`).  So the stepper of the profile accepts the grids, no
collaborator fails on them, no launch is refused while the blocks of a cube are not too many, and
every step of a run succeeds (`Profile.exists_runs`).
-/

namespace MethodOfLines

variable {σ α : Type}

/-! ## Grids that are accepted -/

/-- Buffers of zeros are made if there are fields and the elements can be counted. -/
theorem FieldSet.zeroed_eq_ok [Zero α] {points fields : Nat} (hf : 0 < fields)
    (h : points * fields < Word.limit) :
    zeroed (α := α) points fields = .ok ⟨points, fields, Buffers.fill _ 0, hf, h⟩ := by
  rw [zeroed, dif_neg (Nat.ne_of_gt hf)]
  split
  · next hmul => cases (Word.mul?_eq_some.mpr ⟨rfl, h⟩).symm.trans hmul
  · rfl

namespace Stepper

variable [Scalar α] {s : Stepper σ α}

/-- **Grids are accepted** if their buffers fit, their ids are distinct and they evolve the same
number of fields. -/
theorem validateGrids_eq_ok {grids : List (Grid α)} (fields : Nat)
    (hfits : ∀ g ∈ grids, g.functions.points = g.descriptor.points ∧ g.functions.fields = fields)
    (hids : (grids.map Grid.id).Nodup) : (s.validateGrids grids).1 = .ok () :=
  validateGrids_of_valid ⟨fun g hg => (hfits g hg).1, hids,
    fun g hg g' hg' => (hfits g hg).2.trans (hfits g' hg').2.symm⟩

/-- **A stepper is built** from streams, a block size that is allowed and a diagonal method. -/
theorem exists_make {c : Config σ α} (hstreams : 0 < c.streamPoolSize) (hblock : 0 < c.blockSize)
    (hle : c.blockSize ≤ Launch.maxBlockSize) (hd : c.scheme.isDiagonal = true) :
    ∃ s events, make c = .ok (s, events) ∧ s.plan.tableau = c.scheme
      ∧ s.operators = c.operators
      ∧ s.outerBoundary = c.outerTag.map BoundaryCondition.ofTag
      ∧ s.streams = c.streamPoolSize ∧ s.blockSize = c.blockSize ∧ s.poisoned = false := by
  have hplan : Plan.ofTableau c.scheme = .ok ⟨c.scheme, hd⟩ := dif_pos hd
  refine ⟨⟨⟨c.scheme, hd⟩, c.operators, c.outerTag.map BoundaryCondition.ofTag, c.streamPoolSize,
    c.blockSize, .awaitingStage 1, false, {}, hstreams, hblock, hle⟩,
    building c ⟨c.scheme, hd⟩ (c.outerTag.map .ofTag), ?_, rfl, rfl, rfl, rfl, rfl, rfl⟩
  rw [make, dif_neg (by omega), dif_neg (by omega), hplan]

end Stepper

/-! ## The cubes -/

theorem fillGhosts_fillGhosts {β : Type} (d : Descriptor α) (v : Vector β d.points) :
    fillGhosts d (fillGhosts d v) = fillGhosts d v :=
  fillGhostsAt_fillGhostsAt (Nat.le_of_eq (Nat.zero_add _)) v

/-- A filled field is filled under another name for its length. -/
theorem fillGhosts_mk {β : Type} {d : Descriptor α} {m n : Nat} {v : Vector β n}
    (hv : fillGhosts d v = v) (h : v.toArray.size = m) :
    fillGhosts d (⟨v.toArray, h⟩ : Vector β m) = ⟨v.toArray, h⟩ := by
  obtain rfl : n = m := v.size_toArray.symm.trans h
  exact hv

namespace Profile

/-- **A cube of a profile**: `n` points along each side in one layer of ghost points, with zero
gradient at the boundary and one field, which fits and is filled. -/
structure Cube (n : Nat) (id : GridId) (g : Grid α) : Prop where
  id_eq : g.id = id
  interior : g.descriptor.interior = .uniform n
  ghosts : g.descriptor.ghosts = 1
  boundary : g.descriptor.boundary = .extrapolation
  fields : g.functions.fields = 1
  points : g.functions.points = g.descriptor.points
  filled : fillGhosts g.descriptor g.functions.buffers.state = g.functions.buffers.state

theorem volume_cube (n : Nat) : volume (padded (.uniform n) 1) = (n + 2) ^ 3 := by
  simp only [volume, padded, Axes.uniform, Axes.map]
  ring

theorem Cube.points_eq {n : Nat} {id : GridId} {g : Grid α} (h : Cube n id g) :
    g.descriptor.points = (n + 2) ^ 3 := by
  rw [Descriptor.points, Descriptor.dims, h.interior, h.ghosts, volume_cube]

variable {n count streams : Nat} {grids : List (Grid α)}

theorem exists_cube (h : List.Forall₂ (Cube n) (List.range count) grids) :
    ∀ g ∈ grids, ∃ id, Cube n id g :=
  List.forall_mem_of_forall₂ h (fun hg _ => ⟨_, hg⟩) fun _ _ => trivial

theorem map_id_cubes (h : List.Forall₂ (Cube n) (List.range count) grids) :
    grids.map Grid.id = List.range count := by
  rw [List.map_eq_of_forall₂ (f := id) h fun hg => hg.id_eq, List.map_id]

/-- As many streams are in use as there are cubes and streams for them. -/
theorem length_dedup_cubes (hstreams : 1 ≤ streams)
    (h : List.Forall₂ (Cube n) (List.range count) grids) :
    (grids.map fun g => g.id % streams).dedup.length = min count streams := by
  have hids : (grids.map fun g => g.id % streams) = (List.range count).map (· % streams) := by
    rw [← map_id_cubes h, List.map_map]
    rfl
  have hperm :
      ((List.range count).map (· % streams)).dedup.Perm (List.range (min count streams)) := by
    refine (List.perm_ext_iff_of_nodup (List.nodup_dedup _) List.nodup_range).mpr fun t => ?_
    simp only [List.mem_dedup, List.mem_map, List.mem_range, Nat.lt_min]
    constructor
    · rintro ⟨id, hid, rfl⟩
      exact ⟨Nat.lt_of_le_of_lt (Nat.mod_le id streams) hid, Nat.mod_lt id hstreams⟩
    · rintro ⟨hcount, hlt⟩
      exact ⟨t, hcount, Nat.mod_eq_of_lt hlt⟩
  rw [hids, hperm.length_eq, List.length_range]

variable [Scalar α] [OfScientific α] [Exponential α]

/-- **A cube with a bump is made** if it has points and they can be counted. -/
theorem exists_bump (hn : 1 ≤ n) (hlimit : (n + 2) ^ 3 < Word.limit) (id : GridId) (h : α) :
    ∃ g, bump id n h = .ok g ∧ Cube n id g := by
  have hvolume : volume (padded (.uniform n) 1) < Word.limit := volume_cube n ▸ hlimit
  have hpos : 0 < (Axes.uniform n).i0 ∧ 0 < (Axes.uniform n).i1 ∧ 0 < (Axes.uniform n).i2 :=
    ⟨hn, hn, hn⟩
  let d : Descriptor α := ⟨id, .uniform n, 1, .uniform h, .extrapolation, hpos, hvolume⟩
  let values : Vector α d.points :=
    Vector.ofFn fun p => gaussian (width id) (radiusSquared h (d.coordinates p))
  have hsize : d.points * 1 < Word.limit := (Nat.mul_one _).symm ▸ hvolume
  have hvalues : (fillGhosts d values).toArray.size = d.points * 1 := by
    rw [Vector.size_toArray, Nat.mul_one]
  let functions : FieldSet α := ⟨d.points, 1, { Buffers.fill _ 0 with
    state := ⟨(fillGhosts d values).toArray, hvalues⟩ }, Nat.one_pos, hsize⟩
  refine ⟨⟨d, functions⟩, ?_, ⟨rfl, rfl, rfl, rfl, rfl, rfl, ?_⟩⟩
  · rw [bump, Descriptor.make_eq_ok id hpos hvolume]
    change (Grid.zeroed d 1 >>= fun g => g.setState (fillGhosts d values).toArray) = _
    rw [Grid.zeroed, FieldSet.zeroed_eq_ok Nat.one_pos hsize]
    change Except.map _ (FieldSet.setState _ _) = _
    rw [FieldSet.setState, dif_pos hvalues]
    rfl
  · exact fillGhosts_mk (fillGhosts_fillGhosts d values) hvalues

/-- **A profile is made** if its cubes are. -/
theorem exists_make (hn : 1 ≤ n) (hlimit : (n + 2) ^ 3 < Word.limit) (count streams : Nat) :
    ∃ p : Profile σ α, make count n streams = .ok p
      ∧ p.config = { scheme := .heun, streamPoolSize := streams, blockSize := 256,
                     rhs := .diffusion 0.1, boundary := .ghostCopy }
      ∧ List.Forall₂ (Cube n) (List.range count) p.grids := by
  obtain ⟨grids, hgrids, hcubes⟩ := List.exists_mapM_eq_ok (l := List.range count)
    fun id _ => exists_bump hn hlimit id (1 / (n : α))
  refine ⟨⟨_, grids, 0.5 * (1 / (n : α)) * (1 / (n : α)) / (6.0 * 0.1)⟩, ?_, rfl, hcubes⟩
  rw [make, hgrids]
  rfl

/-! ## The run -/

/-- **A profile that runs** on a stepper: its grids are accepted and filled, the collaborators
access nothing out of range on them, and steps can be taken without end, each of which succeeds and
counts two stages of every cube. -/
structure Runs (p : Profile σ α) (s : Stepper σ α) (count streams : Nat) : Prop where
  length : p.grids.length = count
  valid : (s.validateGrids p.grids).1 = .ok ()
  filled : ∀ g ∈ p.grids,
    fillGhosts g.descriptor g.functions.buffers.state = g.functions.buffers.state
  /-- Copying into the ghost points of a field. -/
  fill : ∀ g ∈ p.grids, ∀ field : Vector α g.descriptor.points,
    fillGhostsAt? g.descriptor 0 field = some (fillGhosts g.descriptor field)
  /-- Every call of the right-hand side, whatever the buffers hold. -/
  rhs : ∀ g ∈ p.grids, ∀ ctx : Context α, ctx.grid = g.descriptor →
    ctx.fields = g.functions.fields →
    ∀ (x out : Vector α (g.functions.points * g.functions.fields)) (memory : σ),
      (s.operators.rhs.evaluate ctx x out memory).outcome = .done
        ∧ diffuseFields? 0.1 ctx.grid ctx.fields x (Vector.replicate _ 0)
          = some (s.operators.rhs.evaluate ctx x out memory).buffer
  /-- Every call of the enforcer, whatever the buffer holds. -/
  boundary : ∀ g ∈ p.grids, ∀ ctx : Context α, ctx.grid = g.descriptor →
    ctx.fields = g.functions.fields →
    ∀ (v : Vector α (g.functions.points * g.functions.fields)) (memory : σ),
      (s.operators.boundary.apply ctx v memory).outcome = .done
        ∧ fillFields? ctx.grid ctx.fields v
          = some (s.operators.boundary.apply ctx v memory).buffer
  /-- Whatever the workers have done in the next step, it comes to its end and the run goes on. -/
  goesOn : ∀ (clock : Clock α) (memory : σ) (l : List (Advance σ α)),
    let r : Run σ α := ⟨s, clock, p.grids, memory⟩
    r.Continues l → ∀ schedule, ∃ more a, (r.after l).stepper.stepUnder (r.after l).clock
      (r.after l).grids (r.after l).memory (schedule ++ more) = some a ∧ r.Continues (l ++ [a])
  /-- Any number of steps. -/
  exists_steps : ∀ (clock : Clock α) (memory : σ) (k : Nat),
    ∃ l, l.length = k ∧ Run.Continues ⟨s, clock, p.grids, memory⟩ l
  /-- Every step, however the run has come to it. -/
  steps : ∀ (clock : Clock α) (memory : σ) (l : List (Advance σ α)),
    Run.Continues ⟨s, clock, p.grids, memory⟩ l → ∀ a ∈ l,
      (∃ report, a.result = .ok report ∧ report.metrics =
        { stages := 2, launches := 2 * count, rhsEvaluations := 2 * count
          boundaryApplications := 2 * count, radiationApplications := 0
          streamsUsed := min count streams })
        ∧ List.Forall₂ Grid.Refills p.grids a.grids

end Profile

namespace Stepper

variable [Scalar α] {s : Stepper σ α} {n count : Nat} {grids : List (Grid α)}
  (hcubes : List.Forall₂ (Profile.Cube n) (List.range count) grids)

include hcubes

/-- **Diffusion cannot fail on cubes** whose blocks are not too many, if rates are not searched. -/
theorem succeeds_cubes {coefficient : α} (h : s.operators.Diffuse coefficient)
    (hfree : s.operators.checkFinite = false) (hblock : s.blockSize = 256)
    (hblocks : (n + 2) ^ 3 ⌈/⌉ 256 ≤ 2 ^ 31 - 1) (hlimit : (n + 2) ^ 3 < 2 ^ 64) :
    s.Succeeds grids := by
  refine ⟨fun g hg => ?_, fun g hg => ?_, fun g hg => ?_⟩ <;>
    obtain ⟨id, hcube⟩ := Profile.exists_cube hcubes g hg
  · refine h.succeedOn (Nat.le_of_eq hcube.ghosts.symm) hcube.points fun hc => ?_
    cases hfree.symm.trans hc
  · exact hcube.points
  · rw [refuses_iff_oversized, Oversized, hcube.points_eq, hcube.fields, Nat.mul_one, hblock]
    exact not_or.mpr ⟨Nat.not_le.mpr hlimit, Nat.not_lt.mpr hblocks⟩

/-- What a step of Heun's method over cubes counts. -/
theorem dueMetrics_cubes (hplan : s.plan.tableau = .heun) (houter : s.outerBoundary = none) :
    s.dueMetrics grids =
      { stages := 2, launches := 2 * count, rhsEvaluations := 2 * count
        boundaryApplications := 2 * count, radiationApplications := 0
        streamsUsed := min count s.streams } := by
  have hcondition : ∀ g ∈ grids, s.boundaryFor g = .extrapolation := by
    intro g hg
    obtain ⟨id, hcube⟩ := Profile.exists_cube hcubes g hg
    rw [boundaryFor, conditionOf, houter]
    exact hcube.boundary
  have hstages : s.plan.tableau.stages = 2 := hplan ▸ rfl
  have hlength : grids.length = count := by rw [← hcubes.length_eq, List.length_range]
  have hextrapolation : (grids.countP fun g => s.boundaryFor g = .extrapolation) = count :=
    (List.countP_eq_length.mpr fun g hg => decide_eq_true (hcondition g hg)).trans hlength
  have hradiation : (grids.countP fun g => s.boundaryFor g = .radiation) = 0 :=
    List.countP_eq_zero.mpr fun g hg => by simp [hcondition g hg]
  have hused := s.streamsUsed_dueMetrics grids
  rw [Profile.length_dedup_cubes s.streams_pos hcubes] at hused
  rw [← hused, dueMetrics, hstages, hlength, hextrapolation, hradiation]

end Stepper

namespace Profile

variable [Scalar α] [OfScientific α] [Exponential α] {n streams : Nat}

/-- **Every profile runs.**  For any number of cubes, any number of points along their sides, any
number of streams, and numbers of any kind, as long as the blocks of a cube are not too many for a
launch: the profile is made, its stepper is built and it runs. -/
theorem exists_runs (count : Nat) (hn : 1 ≤ n) (hstreams : 1 ≤ streams)
    (hblocks : (n + 2) ^ 3 ⌈/⌉ 256 ≤ 2 ^ 31 - 1) :
    ∃ (p : Profile σ α) (s : Stepper σ α) (events : List (Event α)),
      make count n streams = .ok p ∧ Stepper.make p.config = .ok (s, events)
        ∧ p.Runs s count streams := by
  have hcover : (n + 2) ^ 3 ≤ 256 * (2 ^ 31 - 1) := (ceilDiv_le_iff_le_mul (by decide)).mp hblocks
  have hlimit : (n + 2) ^ 3 < Word.limit := Nat.lt_of_le_of_lt hcover (by decide)
  obtain ⟨⟨config, grids, dt⟩, hmake, rfl, hcubes⟩ :=
    exists_make (σ := σ) (α := α) hn hlimit count streams
  let c : Config σ α := { scheme := .heun, streamPoolSize := streams, blockSize := 256,
                          rhs := .diffusion 0.1, boundary := .ghostCopy }
  obtain ⟨s, events, hs, hplan, hops, houter, rfl, hblock, hp⟩ :=
    Stepper.exists_make (c := c) hstreams (Nat.succ_pos 255) (Nat.le_of_ble_eq_true rfl) rfl
  have hdiffuse : s.operators.Diffuse 0.1 := hops ▸ ⟨rfl, rfl⟩
  have hsucceeds := Stepper.succeeds_cubes hcubes hdiffuse (hops ▸ rfl) hblock hblocks hlimit
  have hpoints := hsucceeds.points
  refine ⟨_, s, events, hmake, hs, ?_, ?_, ?_, ?_, ?_, ?_,
    fun clock memory l hl => hl.exists_concat, fun clock memory k => Run.exists_continues k _,
    fun clock memory l hl => ?_⟩
  · rw [← hcubes.length_eq, List.length_range]
  · refine Stepper.validateGrids_eq_ok 1 (fun g hg => ?_) ?_
    · obtain ⟨id, hcube⟩ := exists_cube hcubes g hg
      exact ⟨hcube.points, hcube.fields⟩
    · exact map_id_cubes hcubes ▸ List.nodup_range
  · intro g hg
    obtain ⟨id, hcube⟩ := exists_cube hcubes g hg
    exact hcube.filled
  · exact fun g _ field => fillGhostsAt?_eq_some (Nat.le_of_eq (Nat.zero_add _)) field
  · intro g hg ctx hgrid hfields
    obtain ⟨id, hcube⟩ := exists_cube hcubes g hg
    exact hdiffuse.evaluate_eq_some (Nat.le_of_eq hcube.ghosts.symm) (hpoints g hg) hgrid hfields
  · exact fun g hg ctx hgrid hfields => hdiffuse.apply_eq_some (hpoints g hg) hgrid hfields
  · have hdue := Stepper.dueMetrics_cubes hcubes hplan houter
    exact hdue ▸ hl.of_succeeds hp hdiffuse.functional hsucceeds

/-- In machine numbers the reference profile runs on three streams: its next step succeeds, also if
the issuing side has a lead of nine moves, and so do ten steps.  A profile with the largest cubes
whose blocks a launch can have runs as well. -/
theorem exists_runs_reference :
    let due : Metrics :=
      { stages := 2, launches := 8, rhsEvaluations := 8, boundaryApplications := 8
        radiationApplications := 0, streamsUsed := 3 }
    (∃ (p : Profile Unit Float) (s : Stepper Unit Float) (events : List (Event Float)),
        reference 3 = .ok p ∧ Stepper.make p.config = .ok (s, events)
          ∧ (∃ report, (s.step ⟨0, p.dt, 0⟩ p.grids ()).result = .ok report
            ∧ report.metrics = due)
          ∧ (∃ more a report,
            s.stepUnder ⟨0, p.dt, 0⟩ p.grids () (List.replicate 9 .issuer ++ more) = some a
              ∧ a.result = .ok report ∧ report.metrics = due)
          ∧ ∃ l, l.length = 10 ∧ Run.Continues ⟨s, ⟨0, p.dt, 0⟩, p.grids, ()⟩ l
            ∧ ∀ a ∈ l, ∃ report, a.result = .ok report ∧ report.metrics = due)
      ∧ 2 ^ 31 - 1 < (8190 + 2) ^ 3 ⌈/⌉ 256
      ∧ ∃ (p : Profile Unit Float) (s : Stepper Unit Float) (events : List (Event Float)),
        make 2 8189 3 = .ok p ∧ Stepper.make p.config = .ok (s, events) ∧ p.Runs s 2 3 := by
  intro due
  refine ⟨?_, by decide, exists_runs 2 (by decide) (by decide) (by decide)⟩
  obtain ⟨p, s, events, hp, hs, hruns⟩ : ∃ (p : Profile Unit Float) (s : Stepper Unit Float)
      (events : List (Event Float)), make 4 32 3 = .ok p ∧ Stepper.make p.config = .ok (s, events)
        ∧ p.Runs s 4 3 := exists_runs 4 (by decide) (by decide) (by decide)
  have hdue {l : List (Advance Unit Float)}
      (hl : Run.Continues ⟨s, ⟨0, p.dt, 0⟩, p.grids, ()⟩ l) :
      ∀ a ∈ l, ∃ report, a.result = .ok report ∧ report.metrics = due :=
    fun a ha => (hruns.steps _ _ l hl a ha).1
  refine ⟨p, s, events, hp, hs, ?_, ?_, ?_⟩
  · exact hdue (.cons (s.ends_step ..) (.nil _)) _ List.mem_cons_self
  · obtain ⟨more, a, ha, hl⟩ := hruns.goesOn ⟨0, p.dt, 0⟩ () [] (.nil _) (List.replicate 9 .issuer)
    obtain ⟨report, hreport⟩ := hdue hl a List.mem_cons_self
    exact ⟨more, a, report, ha, hreport⟩
  · obtain ⟨l, hlength, hl⟩ := hruns.exists_steps ⟨0, p.dt, 0⟩ () 10
    exact ⟨l, hlength, hl, hdue hl⟩

end Profile

end MethodOfLines
