import MethodOfLines.Proofs.Spawn
import MethodOfLines.Stepper.Script

/-!
# Proofs/Issue — commands issued, and what the pool makes of them

Commands ask requests of the pool until one is refused.  `Command.requests` lists what is asked,
`Command.refusal?` the refusal that ends the list, if one does.  If the commands succeed, the pool
has carried out every request (`Progress.pool_of_run_ok`); and if they only issue operations, none
of which loses its stream, they end as the list does (`Progress.run_of_issues`).
-/

namespace MethodOfLines

variable {σ α : Type}

/-! ## What commands ask -/

namespace Command

/-- The requests of a list of commands, up to the first refusal. -/
def requests : List (Command α) → List (Request α)
  | [] => []
  | .ask request :: rest => request :: requests rest
  | .refuse _ :: _ => []
  | .enter .. :: rest | .report _ :: rest => requests rest

/-- The first refusal in a list of commands. -/
def refusal? : List (Command α) → Option DispatchError
  | [] => none
  | .refuse error :: _ => some error
  | .ask _ :: rest | .enter .. :: rest | .report _ :: rest => refusal? rest

theorem refusal?_append (l l' : List (Command α)) :
    refusal? (l ++ l') = (refusal? l).or (refusal? l') := by
  induction l with
  | nil => rfl
  | cons c l ih =>
    cases c with
    | refuse error => rfl
    | _ => simpa only [List.cons_append, refusal?] using ih

theorem requests_append {l : List (Command α)} (h : refusal? l = none) (l' : List (Command α)) :
    requests (l ++ l') = requests l ++ requests l' := by
  induction l with
  | nil => rfl
  | cons c l ih =>
    cases c with
    | refuse error => simp [refusal?] at h
    | _ =>
      simp only [refusal?] at h
      simp only [List.cons_append, requests, ih h]

theorem requests_append_of_refusal {l : List (Command α)} {error : DispatchError}
    (h : refusal? l = some error) (l' : List (Command α)) : requests (l ++ l') = requests l := by
  induction l with
  | nil => simp [refusal?] at h
  | cons c l ih =>
    cases c with
    | refuse error => rfl
    | _ =>
      simp only [refusal?] at h
      simp only [List.cons_append, requests, ih h]

end Command

/-! ## What the pool makes of requests -/

namespace Pool

variable [Scalar α] (ops : Operators σ α)

/-- **The pool once requests have been carried out**, whatever the answers. -/
def carry (pool : Pool σ α) (requests : List (Request α)) : Pool σ α :=
  requests.foldl (fun pool request => (pool.serve ops request).2) pool

theorem carry_append (pool : Pool σ α) (l l' : List (Request α)) :
    pool.carry ops (l ++ l') = (pool.carry ops l).carry ops l' := List.foldl_append

theorem serve_submit (pool : Pool σ α) (b : Binding α) (call : StageCall α) (op : Op α) :
    pool.serve ops (.submit b call op)
      = ((pool.submit ops b call op).1.mapError .dispatch, pool.absorb ops b op) :=
  Prod.ext rfl (submit_snd ops pool b call op)

theorem carry_cons_submit (pool : Pool σ α) (b : Binding α) (call : StageCall α) (op : Op α)
    (l : List (Request α)) :
    pool.carry ops (.submit b call op :: l) = (pool.absorb ops b op).carry ops l := by
  rw [carry, List.foldl_cons, serve_submit]
  rfl

theorem carry_submits (b : Binding α) (call : StageCall α) (l : List (Op α)) :
    ∀ pool : Pool σ α, pool.carry ops (l.map (.submit b call)) = pool.absorbAll ops b l := by
  induction l with
  | nil => exact fun _ => rfl
  | cons op l ih =>
    intro pool
    rw [List.map_cons, carry_cons_submit]
    exact ih _

/-- A stream that is lost stays lost. -/
theorem statusOf_absorb_crashed {pool : Pool σ α} {s : StreamIndex} (h : pool.statusOf s = .crashed)
    (b : Binding α) (op : Op α) : (pool.absorb ops b op).statusOf s = .crashed := by
  by_cases hs : s = b.stream
  · subst hs
    rw [statusOf] at h
    rw [absorb, statusOf, stream?_onStream _ _ (Stream.index_accept ops b op), if_pos rfl]
    cases hst : pool.stream? b.stream with
    | none => rw [hst] at h; exact absurd h (by simp)
    | some st =>
      rw [hst, Option.map_some, Option.getD_some] at h
      rw [Option.map_some, Option.map_some, Option.getD_some, Stream.accept,
        Worker.perform_of_status_ne ops (by rw [h]; simp)]
      exact h
  · rw [absorb, statusOf_onStream _ _ (Stream.index_accept ops b op) hs, h]

omit [Scalar α] in
/-- An operation for a grid on one of the streams of a pool. -/
def Issues (pool : Pool σ α) : Request α → Prop
  | .submit b _ _ => b.stream ∈ pool.indices
  | .fence _ => False

theorem issues_absorb {pool : Pool σ α} {request : Request α} (h : pool.Issues request)
    (b : Binding α) (op : Op α) : (pool.absorb ops b op).Issues request := by
  cases request with
  | fence stage => exact h
  | submit b' call' op' => rwa [Issues, absorb, indices_onStream]

theorem statusOf_carry_crashed {pool : Pool σ α} {l : List (Request α)}
    (hl : ∀ request ∈ l, pool.Issues request) {s : StreamIndex} (h : pool.statusOf s = .crashed) :
    (pool.carry ops l).statusOf s = .crashed := by
  induction l generalizing pool with
  | nil => exact h
  | cons request l ih =>
    cases request with
    | fence stage => exact (hl _ List.mem_cons_self).elim
    | submit b call op =>
      rw [carry_cons_submit]
      exact ih (fun request hrequest =>
        issues_absorb ops (hl request (List.mem_cons_of_mem _ hrequest)) b op)
        (statusOf_absorb_crashed ops h b op)

omit [Scalar α] in
theorem exists_stream?_of_mem {pool : Pool σ α} {s : StreamIndex} (h : s ∈ pool.indices) :
    ∃ st, pool.stream? s = some st := by
  obtain ⟨st, hst, rfl⟩ := List.mem_map.mp h
  exact Option.isSome_iff_exists.mp (List.find?_isSome.mpr ⟨st, hst, by simp⟩)

end Pool

/-! ## Commands carried out -/

namespace Progress

variable [Scalar α] (ops : Operators σ α)

/-- The commands after the first are issued if it succeeds. -/
theorem run_append (l l' : List (Command α)) (p : Progress σ α) :
    run ops (l ++ l') p = match run ops l p with
      | (.ok (), p) => run ops l' p
      | (.error e, p) => (.error e, p) := by
  induction l generalizing p with
  | nil => rfl
  | cons c l ih =>
    rw [List.cons_append, run, run]
    match p.issue ops c with
    | (.ok (), p) => exact ih p
    | (.error e, p) => rfl

theorem run_append_ok {l l' : List (Command α)} {p p' : Progress σ α}
    (h : run ops (l ++ l') p = (.ok (), p')) :
    ∃ q, run ops l p = (.ok (), q) ∧ run ops l' q = (.ok (), p') := by
  rw [run_append] at h
  match hl : run ops l p with
  | (.ok (), q) => rw [hl] at h; exact ⟨q, rfl, h⟩
  | (.error e, q) => rw [hl] at h; simp at h

/-- **Commands that succeed have asked everything they hold, and refused nothing.** -/
theorem pool_of_run_ok {l : List (Command α)} {p p' : Progress σ α}
    (h : run ops l p = (.ok (), p')) :
    p'.pool = p.pool.carry ops (Command.requests l) ∧ Command.refusal? l = none := by
  induction l generalizing p with
  | nil =>
    obtain ⟨-, rfl⟩ := Prod.mk.inj h
    exact ⟨rfl, rfl⟩
  | cons c l ih =>
    rw [run] at h
    cases c with
    | enter stage call => exact ih (p := p.enter stage call) h
    | report event => exact ih (p := p.report event) h
    | refuse error => simp [issue] at h
    | ask request =>
      rw [issue] at h
      match hs : p.pool.serve ops request with
      | (.ok (), pool) =>
        rw [hs] at h
        obtain ⟨hpool, href⟩ := ih h
        refine ⟨hpool.trans ?_, href⟩
        rw [Command.requests, Pool.carry, Pool.carry, List.foldl_cons, hs]
      | (.error e, pool) => rw [hs] at h; simp at h

/-- **Commands that issue operations none of which loses its stream end as their list does**: with
its refusal, if there is one. -/
theorem run_of_issues {l : List (Command α)} {p : Progress σ α}
    (hl : ∀ request ∈ Command.requests l, p.pool.Issues request)
    (hc : ∀ s, (p.pool.carry ops (Command.requests l)).statusOf s ≠ .crashed) :
    ∃ p', p'.pool = p.pool.carry ops (Command.requests l)
      ∧ run ops l p = (StepError.result ((Command.refusal? l).map .dispatch), p') := by
  induction l generalizing p with
  | nil => exact ⟨p, rfl, rfl⟩
  | cons c l ih =>
    cases c with
    | enter stage call => exact ih (p := p.enter stage call) hl hc
    | report event => exact ih (p := p.report event) hl hc
    | refuse error => exact ⟨p, rfl, rfl⟩
    | ask request =>
      cases request with
      | fence stage => exact (hl _ List.mem_cons_self).elim
      | submit b call op =>
        obtain ⟨st, hst⟩ := Pool.exists_stream?_of_mem (hl _ List.mem_cons_self)
        have hlost : st.worker.lost = false := by
          refine Bool.eq_false_iff.mpr fun hlost => hc b.stream ?_
          refine Pool.statusOf_carry_crashed ops hl ?_
          rw [Pool.statusOf, hst]
          exact Worker.status_eq_crashed.mpr hlost
        have hserve : p.pool.serve ops (.submit b call op) = (.ok (), p.pool.absorb ops b op) := by
          rw [Pool.serve_submit, Pool.submit_fst ops p.pool b call op hst, hlost]
          rfl
        rw [Command.requests, Pool.carry_cons_submit] at hc ⊢
        rw [run, issue, hserve]
        exact ih (p := { p with pool := p.pool.absorb ops b op, metrics := _ })
          (fun request hrequest =>
            Pool.issues_absorb ops (hl request (List.mem_cons_of_mem _ hrequest)) b op) hc

end Progress

end MethodOfLines
