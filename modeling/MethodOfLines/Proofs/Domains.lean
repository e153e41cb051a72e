import MethodOfLines.Proofs.Butcher
import MethodOfLines.Proofs.Lost
import MethodOfLines.Proofs.Routed

/-!
# Proofs/Domains — no operation of a step leaves its domain

Some operations on the way through a step are partial: a position of a list, a remainder, the
stream of a slot, the slot of a stream, two buffers of one grid, a product of sizes.  That they are
defined is said by one structure for each part of the way: laying out a method (`Tableau.InDomain`),
starting the streams (`Pool.Started`), and every point of every schedule (`Machine.InDomain`).

The shape of a tableau answers for the first.  A stream is started for the grids bound to it, which
answers for the second.  For the third, operations leave the slots of a worker as they are
(`Worker.slots_perform`), so a slot stays with the one stream it was bound to (`Machine.Parted`),
and to that stream its operations go.
-/

namespace MethodOfLines

variable {σ α : Type}

/-! ## Laying out a method -/

theorem Stage.getElem?_kernelNames (stage : Stage α) (h : stage.index < maxStages) :
    kernelNames[stage.index]? = some stage.kernelName := by
  have hlt : stage.index < kernelNames.length := h
  rw [kernelName, List.getD_eq_getElem?_getD, List.getElem?_eq_getElem hlt]
  rfl

namespace Tableau

variable [Zero α]

/-- **The coefficients that are looked up exist**, and the kernel of every stage has a name. -/
structure InDomain (t : Tableau α) : Prop where
  /-- What is searched of a row, to see whether the method is diagonal, is part of the row. -/
  row : ∀ {i row}, t.a[i]? = some row → i - 1 ≤ row.length
  weight : ∀ i < t.stages, t.b[i]? = some (t.weight i)
  node : ∀ i < t.stages, t.c[i]? = some (t.node i)
  name : ∀ i < t.stages, Stage.kernelNames[(t.stage i).index]? = some (t.stage i).kernelName

theorem inDomain (t : Tableau α) : t.InDomain where
  row {i row} h := by
    have hi : i < t.stages := t.length_a ▸ (List.getElem?_eq_some_iff.mp h).1
    obtain ⟨row', hrow', hlen⟩ := t.exists_row hi
    obtain rfl := Option.some.inj (h.symm.trans hrow')
    omega
  weight i hi := by
    rw [weight, List.getElem?_eq_getElem hi]
    rfl
  node i hi := by
    rw [node, List.getElem?_eq_getElem (t.nodes ▸ hi)]
    rfl
  name i hi := Stage.getElem?_kernelNames _ (Nat.lt_of_lt_of_le hi t.stages_le)

end Tableau

/-! ## Starting the streams -/

/-- **Every grid has a stream, and every stream a first grid.** -/
structure Pool.Started (size : Nat) (grids : List (Grid α)) (pool : Pool σ α) : Prop where
  stream : ∀ g ∈ grids, streamFor? g.id size = some (streamFor g.id size)
  first : ∀ st ∈ pool.streams, st.worker.grids.head?.map (·.2.id) = some st.lastGrid

/-- A stream is started for the grids bound to it, of which there are some. -/
theorem Pool.started_spawn {size : Nat} (hsize : 0 < size) (grids : List (Grid α)) (memory : σ) :
    (Pool.spawn size grids memory).Started size grids where
  stream g _ := if_neg (Nat.ne_of_gt hsize)
  first st hst := by
    obtain ⟨t, ht, rfl⟩ := List.mem_map.mp hst
    obtain ⟨b, hb, hstream⟩ := Stream.mem_indices.mp ht
    obtain ⟨e, he, rfl⟩ := List.mem_map.mp hb
    have hmem : e ∈ (Pool.slots grids).filter fun e => streamFor e.2.id size = t :=
      List.mem_filter.mpr ⟨he, decide_eq_true hstream⟩
    obtain ⟨first, rest, hgrids⟩ := List.exists_cons_of_ne_nil (List.ne_nil_of_mem hmem)
    simp only [Stream.start]
    rw [hgrids]
    rfl

/-! ## The slots of a worker -/

namespace Worker

/-- The slots of the grids a worker owns. -/
def slots (w : Worker α) : List Nat := w.grids.map Prod.fst

theorem isSome_grid? {w : Worker α} {slot : Nat} :
    (w.grid? slot).isSome = true ↔ slot ∈ w.slots := by
  rw [grid?, List.lookup_isSome_iff, slots, List.mem_map]
  exact exists_congr fun e => and_congr_right fun _ => by rw [beq_iff_eq, eq_comm]

theorem slots_settle (w : Worker α) (slot : Nat) (v : Verdict) (g : Grid α) :
    (w.settle slot v g).slots = w.slots := by
  rw [slots, grids_settle, setGrid, List.map_map, slots]
  refine List.map_congr_left fun e _ => ?_
  by_cases h : e.1 = slot <;> simp [h]

variable [Scalar α]

/-- **An operation leaves its worker the same slots.** -/
theorem slots_perform (ops : Operators σ α) (w : Worker α) (slot : Nat) (op : Op α) (memory : σ) :
    (w.perform ops slot op memory).1.slots = w.slots := by
  by_cases h : w.status = .done
  · rw [perform_of_status ops h]
    cases op <;> cases hg : w.grid? slot <;> simp [execute, hg, slots_settle] <;> rfl
  · rw [perform_of_status_ne ops h]

omit [Scalar α] in
/-- A new worker has the slots bound to its stream. -/
theorem mem_slots_fresh {size : Nat} {grids : List (Grid α)} {t : StreamIndex} {slot : Nat} :
    slot ∈ (fresh size grids t).slots
      ↔ ∃ e ∈ Pool.slots grids, e.1 = slot ∧ (Pool.bind size e).stream = t := by
  simp only [slots, fresh, List.mem_map, List.mem_filter, decide_eq_true_eq]
  exact ⟨fun ⟨e, ⟨he, ht⟩, hslot⟩ => ⟨e, he, hslot, ht⟩,
    fun ⟨e, he, hslot, ht⟩ => ⟨e, ⟨he, ht⟩, hslot⟩⟩

end Worker

/-! ## Slots are parted among the streams -/

namespace Machine

variable {ops : Operators σ α} {d : Discipline} {size : Nat} {grids : List (Grid α)}
  {requests : List (Request α)} {m m' : Machine σ α}

/-- **Every worker has the slots bound to its stream**, and no others. -/
def Parted (size : Nat) (grids : List (Grid α)) (m : Machine σ α) : Prop :=
  ∀ lane ∈ m.lanes, lane.stream.worker.slots
    = (Worker.fresh size grids lane.stream.worker.stream).slots

variable [Scalar α]

theorem Parted.of_move? (h : m.Parted size grids) {actor : Actor}
    (hmove : m.move? ops d actor = some m') : m'.Parted size grids := by
  cases actor with
  | issuer =>
    exact forall_worker_of_issuer? hmove
      (P := fun w => w.slots = (Worker.fresh size grids w.stream).slots) h
  | worker u =>
    refine forall_worker_of_worker? hmove
      (P := fun w => w.slots = (Worker.fresh size grids w.stream).slots) (fun _ hw => hw)
      (fun lane _ x _ _ hw => ?_) h
    rw [Worker.turn, Worker.slots_perform, Worker.stream_perform, hw]

theorem parted_run (ops : Operators σ α) (d : Discipline) (size : Nat) (grids : List (Grid α))
    (memory : σ) (requests : List (Request α)) (schedule : Schedule) :
    ((start size grids memory requests).run ops d schedule).Parted size grids := by
  refine run_invariant (fun h hmove => h.of_move? hmove) (fun lane hmem => ?_) schedule
  rw [(lane_of_mem_start hmem).1]
  rfl

omit [Scalar α] in
/-- **Every slot is owned by exactly one stream.** -/
theorem Parted.existsUnique (h : m.Parted size grids) (hr : m.Routed size grids requests)
    {slot : Nat} (hslot : slot < grids.length) :
    ∃! lane, lane ∈ m.lanes ∧ (lane.stream.worker.grid? slot).isSome = true := by
  have he : (slot, grids[slot]) ∈ Pool.slots grids :=
    Pool.mem_slots.mpr (List.getElem?_eq_getElem hslot)
  obtain ⟨lane, hmem, hindex⟩ := hr.exists_lane he
  obtain ⟨g, hg, -⟩ := hr.owns lane hmem _ he hindex.symm
  refine ⟨lane, ⟨hmem, by rw [hg]; rfl⟩, ?_⟩
  rintro lane' ⟨hmem', hsome⟩
  rw [Worker.isSome_grid?, h lane' hmem', Worker.mem_slots_fresh] at hsome
  obtain ⟨e, he', hslot', hstream⟩ := hsome
  obtain rfl := Pool.eq_of_mem_slots he he' hslot'
  exact eq_of_index hr.sound.nodup hmem' hmem (hstream.symm.trans hindex.symm)

end Machine

/-! ## What a worker carries out -/

/-- **What an operation takes of its grid exists**: two different buffers for rates and what they
are made of; for a kernel a stage buffer, and parameters of its own grid whose points times fields
fit a word. -/
def Op.InDomain (params : Option (Params α)) (g : Grid α) : Op α → Prop
  | .syncParams _ | .applyBoundary .. => True
  | .evaluateRhs _ input output | .applyRadiation _ input output =>
    (g.functions.buffers.pair? input output).isSome = true
  | .launch _ _ stageBuffer _ =>
    (∃ synced, params = some synced ∧ synced.grid = g.id
        ∧ (Word.mul? synced.points g.functions.fields).isSome = true)
      ∧ (g.functions.buffers.stageViews? stageBuffer).isSome = true

/-- **The operations of a row are in their domain**, on a grid of the right shape and under its
parameters. -/
theorem Binding.inDomain_of_mem_row {b : Binding α} {blockSize : Nat}
    {policy : Descriptor α → BoundaryPolicy} {stage : Stage α} {call : StageCall α} {op : Op α}
    (hop : op ∈ b.row blockSize policy stage call) {g : Grid α} (hg : b.Fits g) :
    op.InDomain (some (.ofDescriptor b.descriptor)) g := by
  have hpair := g.functions.buffers.pair?_of_ne stage.rhsInput_ne_rhsOutput
  rcases cases_of_mem_row blockSize policy stage call hop with
    rfl | rfl | ⟨work, hwork, rfl⟩ | rfl
  · exact Option.isSome_of_eq_some hpair
  · exact Option.isSome_of_eq_some hpair
  · refine ⟨⟨_, rfl, congrArg Descriptor.id hg.descriptor.symm, ?_⟩, ?_⟩
    · rw [hg.fields]
      exact Option.isSome_of_eq_some (mul?_of_launch hwork)
    · exact Option.isSome_of_eq_some (g.functions.buffers.stageViews?_stageOutput stage.index)
  · exact trivial

/-! ## Every point of every schedule -/

/-- **What a machine looks up is there**, on the issuing side and in the workers. -/
structure Machine.InDomain (grids : List (Grid α)) (requests : List (Request α))
    (m : Machine σ α) : Prop where
  /-- An operation is issued for a grid of the list, -/
  bound : ∀ {b call op}, .submit b call op ∈ requests → m.bindings[b.slot]? = some b
  /-- whose stream exists. -/
  sent : ∀ {b call op}, .submit b call op ∈ requests →
    (m.lanes.find? (·.stream.index = b.stream)).isSome = true
  owner : ∀ slot < grids.length,
    ∃! lane, lane ∈ m.lanes ∧ (lane.stream.worker.grid? slot).isSome = true
  /-- What is in a queue is for a slot of its worker, -/
  queued : ∀ lane ∈ m.lanes, ∀ x ∈ lane.work, (lane.stream.worker.grid? x.1).isSome = true
  /-- and what is carried out is in the domain of the grid that it finds there. -/
  executed : ∀ {lane slot op}, m.Upcoming lane slot op →
    ∃ g, lane.stream.worker.grid? slot = some g ∧ op.InDomain lane.stream.worker.params g
  present : ∀ lane ∈ m.lanes, lane.stream.worker.lost = false

namespace Stepper

variable [Scalar α] (s : Stepper σ α) (clock : Clock α) (grids : List (Grid α)) (memory : σ)

theorem bound_requests : Request.Bound s.streams grids (s.requests clock grids memory) := by
  intro b call op h
  obtain ⟨stage, -, e, he, rfl, -, -⟩ := mem_requests h
  exact ⟨e, he, rfl⟩

theorem inDomain_machine (hc : ∀ g ∈ grids, s.operators.NeverCrashOn g) (schedule : Schedule) :
    (s.machine clock grids memory schedule).InDomain grids (s.requests clock grids memory) := by
  have hb := s.bound_requests clock grids memory
  have hr : (s.machine clock grids memory schedule).Routed s.streams grids _ :=
    Machine.routed_run s.operators .stop s.streams grids memory _ schedule
  have hparted : (s.machine clock grids memory schedule).Parted s.streams grids :=
    Machine.parted_run s.operators .stop s.streams grids memory _ schedule
  obtain ⟨before, current, hfollows⟩ := s.follows_machine clock grids memory schedule
  refine ⟨fun {b call op} h => ?_, fun {b call op} h => ?_,
    fun slot hslot => hparted.existsUnique hr hslot, fun lane hmem x hx => ?_,
    fun {lane slot op} hup => ?_, hfollows.lost_eq_false hc⟩
  · obtain ⟨e, he, rfl⟩ := hb b call op h
    rw [hr.bindings, List.getElem?_map]
    exact congrArg _ ((Pool.getElem?_slots grids e.1).trans (congrArg _ (Pool.mem_slots.mp he)))
  · obtain ⟨e, he, rfl⟩ := hb b call op h
    obtain ⟨lane, hmem, hindex⟩ := hr.exists_lane he
    exact List.find?_isSome.mpr ⟨lane, hmem, decide_eq_true hindex⟩
  · obtain ⟨b, call, h, ht, hslot⟩ := Request.mem_workFor.mp (hr.queued lane hmem x hx)
    obtain ⟨e, he, rfl⟩ := hb b call x.2 h
    obtain ⟨g, hg, -⟩ := hr.owns lane hmem e he ht
    rw [← hslot]
    exact Option.isSome_of_eq_some hg
  · obtain ⟨stage, -, e, -, -, rfl, ⟨g, hg, hrefills⟩, hx⟩ := exists_place_of_upcoming hfollows hup
    refine ⟨g, hg, ?_⟩
    rcases hx with rfl | ⟨hx, hparams⟩
    · exact trivial
    · rw [hparams]
      exact Binding.inDomain_of_mem_row hx (Pool.fits_bind hrefills _)

/-- **A step stays in the domain of everything it uses**, if no collaborator crashes and one more
step can be counted.  A method can be laid out, or seen not to be diagonal, without leaving its
tableau; for any list of grids, also of one id or with buffers that do not fit, every stream can be
started; at every point of every schedule what the issuing side and the workers look up is there;
and the step comes to its end. -/
theorem step_stays_in_domain (t : Tableau α) (hc : ∀ g ∈ grids, s.operators.NeverCrashOn g)
    (hclock : clock.iteration < Word.limit - 1) (schedule : Schedule) :
    t.InDomain ∧ (Pool.spawn s.streams grids memory).Started s.streams grids
      ∧ (s.machine clock grids memory schedule).InDomain grids (s.requests clock grids memory)
      ∧ Word.add? clock.iteration 1 = some clock.completeStep.iteration
      ∧ ∃ more, (s.stepUnder clock grids memory (schedule ++ more)).isSome = true := by
  refine ⟨t.inDomain, Pool.started_spawn s.streams_pos grids memory,
    s.inDomain_machine clock grids memory hc schedule, Word.add?_eq_some.mpr ⟨rfl, ?_⟩,
    s.exists_stepUnder_append clock grids memory schedule⟩
  change clock.iteration + 1 < Word.limit
  omega

/-- Two grids of one id and one whose buffers do not fit, all on one stream, at the last step that
can be counted.  The kernel of the first grid is next. -/
theorem step_stays_in_domain_heunThird :
    let s : Stepper Unit Rat := .heunThird (.faulty [] (.affine 1 2 3)) .none
    let clock : Clock Rat := ⟨0, 1, Word.limit - 2⟩
    let grids := [Grid.pair 3 .radiation 1 2, Grid.pair 3 .extrapolation 3 4,
      Grid.holding 5 4 2 (by decide) (by decide) (by decide)]
    let m := s.machine clock grids () (List.replicate 4 .issuer ++ List.replicate 3 (.worker 1))
    (Tableau.strongStability : Tableau Rat).InDomain
      ∧ (∃ lane op g, m.Upcoming lane 0 op ∧ lane.stream.worker.grid? 0 = some g
        ∧ op.InDomain lane.stream.worker.params g)
      ∧ (∃! lane, lane ∈ m.lanes ∧ (lane.stream.worker.grid? 2).isSome = true)
      ∧ Word.add? clock.iteration 1 = some (Word.limit - 1) := by
  intro s clock grids m
  have hc : ∀ g ∈ grids, s.operators.NeverCrashOn g :=
    fun g _ => neverCrash_heunThird (by simp) 1 2 3 g
  have hnext : ∃ lane ∈ m.lanes, lane.stream.worker.status = .done
      ∧ (lane.work.head?.map Prod.fst = some 0 ∧ lane.queue.length = 1) := by decide +kernel
  obtain ⟨ht, -, hm, hcount, -⟩ := step_stays_in_domain s clock grids ()
    Tableau.strongStability hc (by decide)
    (List.replicate 4 .issuer ++ List.replicate 3 (.worker 1))
  obtain ⟨lane, hlane, hstatus, hhead, hlen⟩ := hnext
  obtain ⟨message, hq⟩ := List.length_eq_one_iff.mp hlen
  cases message with
  | fence => rw [Lane.work, hq] at hhead; cases hhead
  | work slot op =>
    rw [Lane.work, hq] at hhead
    obtain rfl : slot = 0 := Option.some.inj hhead
    have hup : m.Upcoming lane 0 op := ⟨hlane, ⟨[], hq⟩, hstatus⟩
    obtain ⟨g, hg, hop⟩ := hm.executed hup
    exact ⟨ht, ⟨lane, op, g, hup, hg, hop⟩, hm.owner 2 (by decide), hcount⟩

end Stepper

end MethodOfLines
