import MethodOfLines.Proofs.Agenda
import MethodOfLines.Proofs.History

/-!
# Proofs/Rounds — a worker's turns, one grid at a time

What a stage sends to a stream comes in **rounds**: the parameters of a grid, then its row.  While a
worker has its turns of a round, other streams may change what is remembered, so the operations of
the row *take* the grid to another with the memory each has met (`Op.Takes`).  A round leaves all
other grids alone (`Worker.exists_takes_round`); hence in a stage every grid of the stream is either
untouched or where its own row took it (`Worker.grid?_after_rounds`).

While nothing is wrong with a worker, the operation it is to carry out next belongs to a grid of its
stream, which it finds with the parameters of that grid installed (`Stepper.exists_place_of_next`).
So what holds of the verdicts of such operations holds of the worker
(`Stepper.status_after_agenda`): if no collaborator crashes, under no schedule a stream is lost
(`Machine.Follows.lost_eq_false`).
-/

namespace MethodOfLines

variable {σ α : Type} [Scalar α]

/-! ## Operations on one grid, whatever is remembered -/

namespace Op

/-- **Operations on a grid in order, up to the first that is not done**, each with a memory that it
has `met`: the grid they take it to, and the verdict. -/
inductive Takes (ops : Operators σ α) (stream : StreamIndex) (params : Option (Params α))
    (met : Op α → Grid α → σ → Prop) : List (Op α) → Grid α → Verdict → Grid α → Prop where
  | nil (g : Grid α) : Takes ops stream params met [] g .done g
  | done {op l g v g'} {memory : σ} (hm : met op g memory)
      (hd : (op.execute ops stream params g memory).verdict = .done)
      (h : Takes ops stream params met l (op.execute ops stream params g memory).grid v g') :
      Takes ops stream params met (op :: l) g v g'
  | stop {op l g} {memory : σ} (hm : met op g memory)
      (hd : (op.execute ops stream params g memory).verdict ≠ .done) :
      Takes ops stream params met (op :: l) g (op.execute ops stream params g memory).verdict
        (op.execute ops stream params g memory).grid

variable {ops : Operators σ α} {stream : StreamIndex} {params : Option (Params α)}
  {met : Op α → Grid α → σ → Prop} {l l' : List (Op α)} {g g' : Grid α} {v : Verdict}

/-- **What every operation keeps, a run of them keeps**: an invariant of the grid, and with it a
property of the verdict that `done` has. -/
theorem Takes.invariant {I : Grid α → Prop} {Q : Verdict → Prop} (hd : Q .done)
    (ht : Takes ops stream params met l g v g')
    (h : ∀ op ∈ l, ∀ g memory, I g → I (op.execute ops stream params g memory).grid
      ∧ Q (op.execute ops stream params g memory).verdict) (hg : I g) : I g' ∧ Q v := by
  induction ht with
  | nil g => exact ⟨hg, hd⟩
  | stop _ _ => exact h _ List.mem_cons_self _ _ hg
  | done _ _ _ ih =>
    exact ih (fun op hop => h op (List.mem_cons_of_mem _ hop))
      (h _ List.mem_cons_self _ _ hg).1

/-- Operations stop among the first ones, or take the grid through these to the others. -/
theorem Takes.append_cases (ht : Takes ops stream params met (l ++ l') g v g') :
    (v ≠ .done ∧ Takes ops stream params met l g v g')
      ∨ ∃ g₁, Takes ops stream params met l g .done g₁
        ∧ Takes ops stream params met l' g₁ v g' := by
  induction l generalizing g with
  | nil => exact .inr ⟨g, .nil g, ht⟩
  | cons op l ih =>
    cases ht with
    | stop hm hd => exact .inl ⟨hd, .stop hm hd⟩
    | done hm hd ht =>
      rcases ih ht with ⟨hv, ht⟩ | ⟨g₁, ht, ht'⟩
      · exact .inl ⟨hv, .done hm hd ht⟩
      · exact .inr ⟨g₁, .done hm hd ht, ht'⟩

theorem Takes.of_nil (ht : Takes ops stream params met [] g v g') : v = .done ∧ g' = g := by
  cases ht
  exact ⟨rfl, rfl⟩

theorem Takes.of_singleton {op : Op α} (ht : Takes ops stream params met [op] g v g') :
    ∃ memory, met op g memory ∧ v = (op.execute ops stream params g memory).verdict
      ∧ g' = (op.execute ops stream params g memory).grid := by
  cases ht with
  | stop hm hd => exact ⟨_, hm, rfl, rfl⟩
  | done hm hd ht =>
    obtain ⟨rfl, rfl⟩ := ht.of_nil
    exact ⟨_, hm, hd.symm, rfl⟩

end Op

/-! ## Rounds -/

/-- **A round**: the parameters of a grid, and its row, as they are sent to its stream. -/
def Binding.round (blockSize : Nat) (policy : Descriptor α → BoundaryPolicy) (stage : Stage α)
    (call : StageCall α) (b : Binding α) : List (Nat × Op α) :=
  (Op.sync b.descriptor :: b.row blockSize policy stage call).map (b.slot, ·)

namespace Worker

variable {ops : Operators σ α} {w : Worker α} {turns : List (Turn σ α)}

theorem turn_sync (ops : Operators σ α) (hs : w.status = .done) (slot : Nat) (params : Params α)
    (memory : σ) : w.turn ops ⟨(slot, .syncParams params), memory⟩ = w.install params :=
  congrArg Prod.fst (perform_sync ops hs slot params memory)

/-- **A turn changes at most one grid**, by an operation on it. -/
theorem grid?_turn (ops : Operators σ α) {k : Nat} {g : Grid α} (hg : w.grid? k = some g)
    (x : Turn σ α) :
    (w.turn ops x).grid? k = some g
      ∨ (w.turn ops x).grid? k
        = some (x.work.2.execute ops w.stream w.params g x.memory).grid := by
  obtain ⟨⟨slot, op⟩, memory⟩ := x
  by_cases hs : w.status = .done
  · by_cases hop : op.IsWork
    · cases hslot : w.grid? slot with
      | some g' =>
        rw [turn, perform_work ops hs hslot hop, grid?_settle hslot]
        by_cases hk : k = slot
        · subst hk
          obtain rfl := Option.some.inj (hslot.symm.trans hg)
          exact .inr (if_pos rfl)
        · exact .inl ((if_neg hk).trans hg)
      | none =>
        rw [turn, perform_of_status ops hs]
        cases op with
        | syncParams params => exact absurd rfl (hop params)
        | _ => simp only [execute, hslot]; exact .inl hg
    · obtain ⟨params, rfl⟩ : ∃ params, op = .syncParams params := by simpa [Op.IsWork] using hop
      rw [turn, perform_sync ops hs]
      exact .inl hg
  · rw [turn_of_status_ne ops hs]
    exact .inl hg

/-- **What the operations of all turns keep of a grid, the turns keep.** -/
theorem exists_grid?_after {R : Grid α → Prop}
    (h : ∀ x ∈ turns, ∀ stream params g, R g →
      R (x.work.2.execute ops stream params g x.memory).grid) {k : Nat} :
    ∀ {w : Worker α} {g}, w.grid? k = some g → R g →
      ∃ g', (w.after ops turns).grid? k = some g' ∧ R g' := by
  induction turns with
  | nil => exact fun hg hr => ⟨_, hg, hr⟩
  | cons x turns ih =>
    intro w g hg hr
    have hrest := fun y hy => h y (List.mem_cons_of_mem x hy)
    rcases grid?_turn ops hg x with hx | hx
    · exact ih hrest hx hr
    · exact ih hrest hx (h x List.mem_cons_self _ _ g hr)

/-- **Every turn a worker carries out** on the grid in a slot finds there what has been `met`. -/
def Meets (ops : Operators σ α) (slot : Nat) (met : Op α → Grid α → σ → Prop) (w : Worker α)
    (turns : List (Turn σ α)) : Prop :=
  ∀ l x l', turns = l ++ x :: l' → (w.after ops l).status = .done → x.work.1 = slot →
    ∀ g, (w.after ops l).grid? slot = some g → met x.work.2 g x.memory

theorem Meets.append {slot : Nat} {met : Op α → Grid α → σ → Prop} {first rest : List (Turn σ α)}
    (h : w.Meets ops slot met (first ++ rest)) :
    w.Meets ops slot met first ∧ (w.after ops first).Meets ops slot met rest := by
  refine ⟨fun l x l' hl => h l x (l' ++ rest) (by rw [hl]; simp), fun l x l' hl => ?_⟩
  rw [← after_append]
  exact h (first ++ l) x l' (by rw [hl, List.append_assoc])

theorem Meets.tail {slot : Nat} {met : Op α → Grid α → σ → Prop} {x : Turn σ α}
    (h : w.Meets ops slot met (x :: turns)) : (w.turn ops x).Meets ops slot met turns :=
  fun l y l' hl => h (x :: l) y l' (by rw [hl]; rfl)

/-- **Turns on one grid** take it where its operations do, and leave the others alone. -/
theorem exists_takes (ops : Operators σ α) {l : List (Op α)} (hl : ∀ op ∈ l, op.IsWork)
    {slot : Nat} {met : Op α → Grid α → σ → Prop} :
    ∀ {w : Worker α} {turns : List (Turn σ α)} {g : Grid α},
      turns.map Turn.work = l.map (slot, ·) → w.status = .done → w.grid? slot = some g →
      w.Meets ops slot met turns →
      ∃ v g', Op.Takes ops w.stream w.params met l g v g' ∧ (w.after ops turns).status = v
        ∧ ∀ k, (w.after ops turns).grid? k = if k = slot then some g' else w.grid? k := by
  induction l with
  | nil =>
    intro w turns g hturns hs hg _
    obtain rfl := List.map_eq_nil_iff.mp hturns
    refine ⟨.done, g, .nil g, hs, fun k => ?_⟩
    split
    · next hk => exact hk ▸ hg
    · rfl
  | cons op l ih =>
    intro w turns g hturns hs hg hmeets
    obtain ⟨⟨work, memory⟩, rest, rfl, rfl, hrest⟩ := List.map_eq_cons_iff.mp hturns
    have hm : met op g memory := hmeets [] _ rest rfl hs rfl g hg
    have hlater := hmeets.tail
    have hstep : w.turn ops ⟨(slot, op), memory⟩
        = w.settle slot (op.execute ops w.stream w.params g memory).verdict
          (op.execute ops w.stream w.params g memory).grid :=
      congrArg Prod.fst (perform_work ops hs hg (hl op List.mem_cons_self) memory)
    have hother := fun k => grid?_settle hg (op.execute ops w.stream w.params g memory).verdict
      (op.execute ops w.stream w.params g memory).grid k
    have hstatus := status_settle hs slot (op.execute ops w.stream w.params g memory).verdict
      (op.execute ops w.stream w.params g memory).grid
    rw [hstep] at hlater
    rw [after_cons, hstep]
    by_cases hd : (op.execute ops w.stream w.params g memory).verdict = .done
    · obtain ⟨v, g', ht, hv, hk⟩ := ih (fun o ho => hl o (List.mem_cons_of_mem _ ho)) hrest
        (hstatus.trans hd) ((hother slot).trans (if_pos rfl)) hlater
      rw [stream_settle, params_settle] at ht
      refine ⟨v, g', .done hm hd ht, hv, fun k => (hk k).trans ?_⟩
      split
      · rfl
      · next hne => exact (hother k).trans (if_neg hne)
    · rw [after_of_status_ne ops (hstatus.trans_ne hd)]
      exact ⟨_, _, .stop hm hd, hstatus, hother⟩

variable {blockSize : Nat} {policy : Descriptor α → BoundaryPolicy} {stage : Stage α}
  {call : StageCall α}

/-- **The turns of a round** take the grid where its row does, under its own parameters. -/
theorem exists_takes_round (ops : Operators σ α) {b : Binding α}
    (hturns : turns.map Turn.work = b.round blockSize policy stage call) (hs : w.status = .done)
    {g : Grid α} (hg : w.grid? b.slot = some g) {met : Op α → Grid α → σ → Prop}
    (hmeets : w.Meets ops b.slot met turns) :
    ∃ v g', Op.Takes ops w.stream (some (.ofDescriptor b.descriptor)) met
          (b.row blockSize policy stage call) g v g'
      ∧ (w.after ops turns).status = v
      ∧ ∀ k, (w.after ops turns).grid? k = if k = b.slot then some g' else w.grid? k := by
  obtain ⟨⟨work, memory⟩, rest, rfl, rfl, hrest⟩ := List.map_eq_cons_iff.mp hturns
  have hstep : w.turn ops ⟨(b.slot, .sync b.descriptor), memory⟩
      = w.install (.ofDescriptor b.descriptor) := turn_sync ops hs ..
  have hlater := hmeets.tail
  rw [hstep] at hlater
  rw [after_cons, hstep]
  exact exists_takes ops (fun op hop => b.isWork_of_mem_row blockSize policy stage call hop)
    (w := w.install (.ofDescriptor b.descriptor)) hrest hs hg hlater

/-- A worker that owns a grid of the right shape for each of these places. -/
def Holds (w : Worker α) (bs : List (Binding α)) : Prop :=
  ∀ b ∈ bs, ∃ g, w.grid? b.slot = some g ∧ b.Fits g

theorem Holds.after {bs : List (Binding α)} (h : w.Holds bs) (ops : Operators σ α)
    (turns : List (Turn σ α)) : (w.after ops turns).Holds bs := by
  intro b hb
  obtain ⟨g, hg, hfits⟩ := h b hb
  exact exists_grid?_after (R := b.Fits) (fun x _ _ _ _ hr => hr.refills (Op.refills_execute ..))
    hg hfits

/-- **In a stage, a grid is untouched or its own row took it where it is**; if the row was not done,
its verdict is the one on the worker. -/
theorem grid?_after_rounds {bs : List (Binding α)} (hn : (bs.map Binding.slot).Nodup) {k : Nat}
    {met : Op α → Grid α → σ → Prop} :
    ∀ {w : Worker α} {turns : List (Turn σ α)}, w.Holds bs →
      turns.map Turn.work = bs.flatMap (Binding.round blockSize policy stage call) →
      w.Meets ops k met turns →
      ∀ {g}, w.grid? k = some g → ∃ g', (w.after ops turns).grid? k = some g'
        ∧ (g' = g ∨ ∃ b ∈ bs, b.slot = k ∧ ∃ v,
          Op.Takes ops w.stream (some (.ofDescriptor b.descriptor)) met
            (b.row blockSize policy stage call) g v g'
          ∧ (v ≠ .done → (w.after ops turns).status = v)) := by
  induction bs with
  | nil =>
    intro w turns _ hturns _ g hk
    obtain rfl := List.map_eq_nil_iff.mp hturns
    exact ⟨g, hk, .inl rfl⟩
  | cons b bs ih =>
    intro w turns hw hturns hmeets g hk
    obtain ⟨hb, hn⟩ := List.nodup_cons.mp hn
    rw [List.flatMap_cons] at hturns
    obtain ⟨first, rest, rfl, hfirst, hrest⟩ := List.map_eq_append_iff.mp hturns
    obtain ⟨hmeets, hmeets'⟩ := hmeets.append
    by_cases hs : w.status = .done
    · have hheld : (w.after ops first).Holds bs :=
        (show w.Holds bs from fun b' hb' => hw b' (List.mem_cons_of_mem _ hb')).after ops first
      have hlater := fun {g} => ih hn hheld hrest hmeets' (g := g)
      rw [stream_after] at hlater
      rw [after_append]
      by_cases hkb : k = b.slot
      · -- later rounds are for other slots
        subst hkb
        obtain ⟨v, g', ht, hv, hgrid⟩ := exists_takes_round ops hfirst hs hk hmeets
        obtain ⟨g'', hg'', heq | ⟨b', hb', hslot, -⟩⟩ := hlater ((hgrid b.slot).trans (if_pos rfl))
        · refine ⟨g'', hg'', .inr ⟨b, List.mem_cons_self, rfl, v, heq ▸ ht, fun hd => ?_⟩⟩
          rw [after_of_status_ne ops (hv.trans_ne hd), hv]
        · exact absurd (hslot ▸ List.mem_map_of_mem hb') hb
      · obtain ⟨gb, hgb, -⟩ := hw b List.mem_cons_self
        have hany : w.Meets ops b.slot (fun _ _ _ => True) first := fun _ _ _ _ _ _ _ _ => trivial
        obtain ⟨_, _, -, -, hgrid⟩ := exists_takes_round ops hfirst hs hgb hany
        obtain ⟨g'', hg'', heq | ⟨b', hb', hslot, hrow⟩⟩ :=
          hlater (((hgrid k).trans (if_neg hkb)).trans hk)
        · exact ⟨g'', hg'', .inl heq⟩
        · exact ⟨g'', hg'', .inr ⟨b', List.mem_cons_of_mem _ hb', hslot, hrow⟩⟩
    · rw [after_of_status_ne ops hs]
      exact ⟨g, hk, .inl rfl⟩

/-- An operation leaves the parameters as they were installed. -/
theorem params_turn (ops : Operators σ α) (w : Worker α) {x : Turn σ α} (hx : x.work.2.IsWork) :
    (w.turn ops x).params = w.params := by
  obtain ⟨⟨slot, op⟩, memory⟩ := x
  by_cases hs : w.status = .done
  · cases hg : w.grid? slot with
    | some g => rw [turn, perform_work ops hs hg hx, params_settle]
    | none =>
      rw [turn, perform_of_status ops hs]
      cases op with
      | syncParams params => exact absurd rfl (hx params)
      | _ => simp only [execute, hg]
  · rw [turn_of_status_ne ops hs]

theorem params_after (ops : Operators σ α) {turns : List (Turn σ α)}
    (h : ∀ x ∈ turns, x.work.2.IsWork) : ∀ w : Worker α, (w.after ops turns).params = w.params := by
  induction turns with
  | nil => exact fun _ => rfl
  | cons x turns ih =>
    intro w
    rw [after_cons, ih fun y hy => h y (List.mem_cons_of_mem x hy),
      params_turn ops w (h x List.mem_cons_self)]

/-- In a round the parameters are installed first, and stay. -/
theorem next_of_round {b : Binding α} {x : Nat × Op α} {rest : List (Nat × Op α)}
    (h : turns.map Turn.work ++ x :: rest = b.round blockSize policy stage call)
    (hs : (w.after ops turns).status = .done) :
    x.1 = b.slot ∧ (x.2 = .sync b.descriptor
      ∨ x.2 ∈ b.row blockSize policy stage call
        ∧ (w.after ops turns).params = some (.ofDescriptor b.descriptor)) := by
  rcases turns with _ | ⟨⟨work, memory⟩, turns⟩
  · obtain ⟨rfl, -⟩ := List.cons.inj h
    exact ⟨rfl, .inl rfl⟩
  · obtain ⟨rfl, -⟩ := List.cons.inj h
    have hrow : turns.map Turn.work ++ x :: rest
        = (b.row blockSize policy stage call).map (b.slot, ·) := (List.cons.inj h).2
    have hmem : ∀ y ∈ turns.map Turn.work ++ x :: rest,
        y.1 = b.slot ∧ y.2 ∈ b.row blockSize policy stage call := by
      intro y hy
      rw [hrow] at hy
      obtain ⟨op, hop, rfl⟩ := List.mem_map.mp hy
      exact ⟨rfl, hop⟩
    obtain ⟨hslot, hx⟩ := hmem x (List.mem_append_right _ List.mem_cons_self)
    refine ⟨hslot, .inr ⟨hx, ?_⟩⟩
    have hwork : ∀ y ∈ turns, y.work.2.IsWork := fun y hy =>
      b.isWork_of_mem_row blockSize policy stage call
        (hmem _ (List.mem_append_left _ (List.mem_map_of_mem hy))).2
    rw [after_cons, params_after ops hwork]
    exact congrArg params (turn_sync ops (status_of_after ops hs) ..)

/-- **In its rounds a worker works on a grid under the grid's own parameters.** -/
theorem exists_round_of_next {calls : Stage α → StageCall α} {rounds : List (Stage α × Binding α)} :
    ∀ {w : Worker α} {turns : List (Turn σ α)} {x : Nat × Op α} {rest : List (Nat × Op α)},
      turns.map Turn.work ++ x :: rest
          = rounds.flatMap (fun r => r.2.round blockSize policy r.1 (calls r.1)) →
      (w.after ops turns).status = .done →
      ∃ r ∈ rounds, x.1 = r.2.slot ∧ (x.2 = .sync r.2.descriptor
        ∨ x.2 ∈ r.2.row blockSize policy r.1 (calls r.1)
          ∧ (w.after ops turns).params = some (.ofDescriptor r.2.descriptor)) := by
  induction rounds with
  | nil =>
    intro w turns x rest h
    rw [List.flatMap_nil, List.append_eq_nil_iff] at h
    cases h.2
  | cons r rounds ih =>
    intro w turns x rest h hs
    rw [List.flatMap_cons] at h
    have hlater : ∀ more, turns.map Turn.work = r.2.round blockSize policy r.1 (calls r.1) ++ more →
        more ++ x :: rest
          = rounds.flatMap (fun r => r.2.round blockSize policy r.1 (calls r.1)) →
        ∃ r ∈ rounds, x.1 = r.2.slot ∧ (x.2 = .sync r.2.descriptor
          ∨ x.2 ∈ r.2.row blockSize policy r.1 (calls r.1)
            ∧ (w.after ops turns).params = some (.ofDescriptor r.2.descriptor)) := by
      intro more hturns hmore
      obtain ⟨first, rest', rfl, -, rfl⟩ := List.map_eq_append_iff.mp hturns
      rw [after_append] at hs ⊢
      exact ih hmore hs
    -- the next operation is of this round, or of a later one
    rcases List.append_eq_append_iff.mp h with ⟨_ | ⟨y, more⟩, hround, hmore⟩ |
      ⟨more, hturns, hmore⟩
    · obtain ⟨r', hr', hx⟩ := hlater [] (hround.symm ▸ by simp) hmore
      exact ⟨r', List.mem_cons_of_mem _ hr', hx⟩
    · obtain ⟨rfl, -⟩ := List.cons.inj hmore
      exact ⟨r, List.mem_cons_self, next_of_round hround.symm hs⟩
    · obtain ⟨r', hr', hx⟩ := hlater more hturns hmore.symm
      exact ⟨r', List.mem_cons_of_mem _ hr', hx⟩

end Worker

/-! ## The rounds of a step -/

namespace Request

variable (t : StreamIndex) (blockSize : Nat) (policy : Descriptor α → BoundaryPolicy)
  (stage : Stage α) (call : StageCall α)

omit [Scalar α] in
theorem workFor_asks (b : Binding α) :
    workFor t (b.asks blockSize policy stage call)
      = if b.stream = t then b.round blockSize policy stage call else [] := by
  rw [workFor, Binding.asks, Binding.round, List.filterMap_map]
  split
  · next h =>
    rw [← List.filterMap_eq_map]
    exact List.filterMap_congr fun op _ => if_pos h
  · next h => exact List.filterMap_eq_nil_iff.mpr fun op _ => if_neg h

omit [Scalar α] in
/-- **What a stage sends to a stream are the rounds of its grids.** -/
theorem workFor_flatMap_asks (bs : List (Binding α)) :
    workFor t (bs.flatMap (Binding.asks blockSize policy stage call))
      = (bs.filter (·.stream = t)).flatMap (Binding.round blockSize policy stage call) := by
  induction bs with
  | nil => rfl
  | cons b bs ih =>
    rw [List.flatMap_cons, workFor_append, workFor_asks, ih, List.filter_cons]
    by_cases h : b.stream = t <;> simp [h]

end Request

omit [Scalar α] in
/-- A new worker owns the grids bound to its stream. -/
theorem Worker.grid?_fresh {size : Nat} {grids : List (Grid α)} {t : StreamIndex}
    {e : Nat × Grid α} (he : e ∈ Pool.slots grids) (ht : (Pool.bind size e).stream = t) :
    (Worker.fresh size grids t).grid? e.1 = some e.2 := by
  refine List.lookup_eq_some_of_mem
    ((List.filter_sublist.map Prod.fst).nodup (Pool.nodup_slots grids)) ?_
  exact List.mem_filter.mpr ⟨he, decide_eq_true ht⟩

namespace Stepper

variable (s : Stepper σ α) (clock : Clock α) (grids : List (Grid α)) (t : StreamIndex)

/-- **The places on a stream**, in the order of the grids. -/
def places : List (Binding α) :=
  ((Pool.slots grids).map (Pool.bind s.streams)).filter (·.stream = t)

variable {s clock grids t}

theorem mem_places {b : Binding α} :
    b ∈ s.places grids t ↔ ∃ e ∈ Pool.slots grids, Pool.bind s.streams e = b ∧ b.stream = t := by
  rw [places, List.mem_filter, List.mem_map, decide_eq_true_iff]
  exact ⟨fun ⟨⟨e, he, hb⟩, ht⟩ => ⟨e, he, hb, ht⟩, fun ⟨e, he, hb, ht⟩ => ⟨⟨e, he, hb⟩, ht⟩⟩

theorem holds_fresh : (Worker.fresh s.streams grids t).Holds (s.places grids t) := by
  intro b hb
  obtain ⟨e, he, rfl, ht⟩ := mem_places.mp hb
  exact ⟨e.2, Worker.grid?_fresh he ht, rfl, rfl⟩

theorem workFor_asks (s : Stepper σ α) (clock : Clock α) (grids : List (Grid α)) (t : StreamIndex)
    (stage : Stage α) :
    Request.workFor t (s.asks clock grids stage)
      = (s.places grids t).flatMap
        (Binding.round s.blockSize s.policyOf stage (callAt clock stage)) := by
  rw [asks, Request.workFor_append, Request.workFor_flatMap_asks, Request.workFor_fence,
    List.append_nil]
  rfl

theorem workFor_flatMap_asks (s : Stepper σ α) (clock : Clock α) (grids : List (Grid α))
    (t : StreamIndex) (stages : List (Stage α)) :
    Request.workFor t (stages.flatMap (s.asks clock grids))
      = stages.flatMap fun stage => (s.places grids t).flatMap
        (Binding.round s.blockSize s.policyOf stage (callAt clock stage)) := by
  induction stages with
  | nil => rfl
  | cons stage stages ih =>
    rw [List.flatMap_cons, Request.workFor_append, workFor_asks, ih, List.flatMap_cons]

/-- **What is next on a stream**, while nothing is wrong: to install the parameters of a grid, or an
operation of its row under them. -/
theorem exists_place_of_next {turns : List (Turn σ α)} {x : Nat × Op α}
    (h : turns.map Turn.work ++ [x] <+: Request.workFor t (s.agenda clock grids))
    (hs : ((Worker.fresh s.streams grids t).after s.operators turns).status = .done) :
    ∃ stage ∈ s.plan.stages, ∃ e ∈ Pool.slots grids, (Pool.bind s.streams e).stream = t
      ∧ x.1 = e.1
      ∧ (∃ g, ((Worker.fresh s.streams grids t).after s.operators turns).grid? e.1 = some g
        ∧ e.2.Refills g)
      ∧ (x.2 = .sync e.2.descriptor
        ∨ x.2 ∈ (Pool.bind s.streams e).row s.blockSize s.policyOf stage (callAt clock stage)
          ∧ ((Worker.fresh s.streams grids t).after s.operators turns).params
            = some (.ofDescriptor e.2.descriptor)) := by
  obtain ⟨rest, hrest⟩ := h
  have hrounds : turns.map Turn.work ++ x :: rest
      = (s.plan.stages.flatMap fun stage => (s.places grids t).map (stage, ·)).flatMap
        fun r => r.2.round s.blockSize s.policyOf r.1 (callAt clock r.1) := by
    rw [List.append_assoc] at hrest
    rw [show x :: rest = [x] ++ rest from rfl, hrest, agenda, workFor_flatMap_asks,
      List.flatMap_assoc]
    simp only [List.flatMap_map]
  obtain ⟨r, hr, hslot, hx⟩ := Worker.exists_round_of_next hrounds hs
  obtain ⟨stage, hstage, hr⟩ := List.mem_flatMap.mp hr
  obtain ⟨b, hb, rfl⟩ := List.mem_map.mp hr
  obtain ⟨e, he, rfl, ht⟩ := mem_places.mp hb
  refine ⟨stage, hstage, e, he, ht, hslot, ?_, hx⟩
  exact Worker.exists_grid?_after (R := e.2.Refills)
    (fun y _ _ _ _ hg => hg.trans (Op.refills_execute ..)) (Worker.grid?_fresh he ht) (.refl e.2)

/-- **What the operations of every row come to, the worker of a stream comes to.** -/
theorem status_after_agenda {Q : Verdict → Prop} (hd : Q .done)
    (hq : ∀ stage ∈ s.plan.stages, ∀ e ∈ Pool.slots grids,
      ∀ op ∈ (Pool.bind s.streams e).row s.blockSize s.policyOf stage (callAt clock stage),
      ∀ g memory, e.2.Refills g → Q (op.execute s.operators (Pool.bind s.streams e).stream
        (some (.ofDescriptor e.2.descriptor)) g memory).verdict)
    {turns : List (Turn σ α)}
    (h : turns.map Turn.work <+: Request.workFor t (s.agenda clock grids)) :
    Q ((Worker.fresh s.streams grids t).after s.operators turns).status := by
  induction turns using List.reverseRecOn with
  | nil => exact hd
  | append_singleton turns x ih =>
    rw [List.map_append] at h
    have hbefore := ih ((List.prefix_append _ _).trans h)
    rw [Worker.after_append]
    by_cases hs : ((Worker.fresh s.streams grids t).after s.operators turns).status = .done
    · obtain ⟨stage, hstage, e, he, ht, hslot, ⟨g, hg, hrefills⟩, hx⟩ := exists_place_of_next h hs
      rw [Worker.after_cons, Worker.after_nil, Worker.turn, hslot]
      rcases hx with hx | ⟨hx, hparams⟩
      · rw [hx, Op.sync, Worker.perform_sync _ hs]
        exact hs.symm ▸ hd
      · have hwork := Binding.isWork_of_mem_row _ _ _ _ hx
        rw [Worker.perform_work _ hs hg hwork, Worker.status_settle hs, Worker.stream_after,
          hparams]
        have hverdict := hq stage hstage e he _ hx g x.memory hrefills
        rwa [ht] at hverdict
    · rwa [Worker.after_of_status_ne _ hs]

end Stepper

/-- **What every lane has had its turn of is a beginning of what the agenda sends.** -/
theorem Machine.Follows.isPrefix_agenda {s : Stepper σ α} {clock : Clock α} {grids : List (Grid α)}
    {memory : σ} {m : Machine σ α} {before current : List (Request α)}
    (h : m.Follows s.operators (Worker.fresh s.streams grids) (s.home grids)
      (s.requests clock grids memory) before current) (t : StreamIndex) :
    Request.workFor t before ++ Request.workFor t current
      <+: Request.workFor t (s.agenda clock grids) := by
  obtain ⟨later, hlater⟩ := h.answers.isPrefix.trans (s.requests_prefix_agenda clock grids memory)
  rw [← hlater, Request.workFor_append, Request.workFor_append]
  exact List.prefix_append _ _

/-- **Under no schedule a stream is lost**, if no collaborator crashes on the grids. -/
theorem Machine.Follows.lost_eq_false {s : Stepper σ α} {clock : Clock α} {grids : List (Grid α)}
    {memory : σ} {m : Machine σ α} {before current : List (Request α)}
    (h : m.Follows s.operators (Worker.fresh s.streams grids) (s.home grids)
      (s.requests clock grids memory) before current)
    (hc : ∀ g ∈ grids, s.operators.NeverCrashOn g) :
    ∀ lane ∈ m.lanes, lane.stream.worker.lost = false := by
  intro lane hmem
  obtain ⟨past, turns, hrec, -⟩ := h.lanes lane hmem
  have hs : ((Worker.fresh s.streams grids lane.stream.index).after s.operators
      (past ++ turns)).status ≠ .crashed := by
    refine Stepper.status_after_agenda (Q := (· ≠ .crashed)) (by simp)
      (fun stage _ e he op hop g memory hg => ?_)
      (hrec.isPrefix.trans (h.isPrefix_agenda _))
    have hc := (hc e.2 (Pool.mem_of_mem_slots he)).refills hg
    rcases Binding.ordinary_execute hc hop (Pool.fits_bind hg _) memory with hv | ⟨error, hv, -⟩ <;>
      exact fun hcrash => by cases hv.symm.trans hcrash
  rw [hrec.lost_eq]
  exact Bool.eq_false_iff.mpr fun hl => hs (Worker.status_eq_crashed.mpr hl)

/-- **An error is the answer of the next fence**, if no stream is lost. -/
theorem Machine.Follows.exists_fence {ops : Operators σ α} {origin : StreamIndex → Worker α}
    {home : Nat → StreamIndex} {requests before current : List (Request α)} {m : Machine σ α}
    (h : m.Follows ops origin home requests before current)
    (hl : ∀ lane ∈ m.lanes, lane.stream.worker.lost = false) {e : StepError}
    (he : .error e ∈ m.results) :
    ∃ stage rest, requests = before ++ current ++ .fence stage :: rest
      ∧ e.stage? = some stage.number := by
  rcases h.answers with ⟨hresults, -⟩ | ⟨request, rest, e', hreq, hresults, -, he'⟩
  · rw [hresults] at he
    cases (List.mem_replicate.mp he).2
  cases request with
  | submit b call op =>
    obtain ⟨lane, hlane, hlost⟩ := h.gone hreq he
    cases (hl lane hlane).symm.trans hlost
  | fence stage =>
    rw [hresults, List.mem_append] at he
    obtain rfl := Except.error.inj (List.mem_singleton.mp (he.resolve_left fun he => by
      cases (List.mem_replicate.mp he).2))
    exact ⟨stage, rest, hreq, he'⟩

end MethodOfLines
