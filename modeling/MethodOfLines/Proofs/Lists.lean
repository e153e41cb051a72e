import Mathlib.Data.List.Forall2
import Mathlib.Data.List.Nodup

/-!
# Proofs/Lists — searches, look-ups and traversals

The streams of a pool are searched in increasing order, so the first hit is the lowest
(`List.findSome?_eq_some_iff_lowest`); the grids of a stream are looked up by their slot
(`List.lookup_eq_some_of_mem`); and a traversal either gives a result for every element or stops.
-/

namespace List

variable {β γ δ : Type}

/-! ## The first hit of a search -/

theorem findSome?_congr {f g : β → Option γ} {l : List β} (h : ∀ b ∈ l, f b = g b) :
    l.findSome? f = l.findSome? g := by
  induction l with
  | nil => rfl
  | cons b l ih =>
    rw [findSome?_cons, findSome?_cons, h b mem_cons_self,
      ih fun c hc => h c (mem_cons_of_mem _ hc)]

theorem findSome?_eq_of_map {f : β → Option γ} {l l' : List β} (h : l.map f = l'.map f) :
    l.findSome? f = l'.findSome? f := by
  have hid : ∀ l : List β, l.findSome? f = (l.map f).findSome? id := fun l => by
    rw [findSome?_map]
    rfl
  rw [hid, h, ← hid]

/-- In an ordered list, the first element with a value is before every other that has one. -/
theorem exists_first_of_findSome? {R : β → β → Prop} {l : List β} (hl : l.Pairwise R)
    {f : β → Option γ} {c : γ} (h : l.findSome? f = some c) :
    ∃ b ∈ l, f b = some c ∧ ∀ b' ∈ l, f b' ≠ none → b' = b ∨ R b b' := by
  obtain ⟨l₁, b, l₂, rfl, hb, hnone⟩ := findSome?_eq_some_iff.mp h
  obtain ⟨-, hl₂, -⟩ := pairwise_append.mp hl
  refine ⟨b, by simp, hb, fun b' hmem hsome => ?_⟩
  rcases mem_append.mp hmem with h₁ | h₂
  · exact absurd (hnone b' h₁) hsome
  · rcases mem_cons.mp h₂ with rfl | h₂
    · exact .inl rfl
    · exact .inr ((pairwise_cons.mp hl₂).1 b' h₂)

/-- The first hit in a list in increasing order is the lowest. -/
theorem findSome?_eq_some_iff_lowest {f : β → Option γ} {key : β → Nat} {l : List β}
    (hs : (l.map key).Pairwise (· < ·)) {c : γ} :
    l.findSome? f = some c
      ↔ ∃ b ∈ l, f b = some c ∧ ∀ a ∈ l, key a < key b → f a = none := by
  constructor
  · intro h
    obtain ⟨b, hb, hfb, hfirst⟩ := exists_first_of_findSome? (pairwise_map.mp hs) h
    refine ⟨b, hb, hfb, fun a ha hlt => by_contra fun hsome => ?_⟩
    rcases hfirst a ha hsome with rfl | hgt
    · exact Nat.lt_irrefl _ hlt
    · exact Nat.lt_asymm hlt hgt
  · rintro ⟨b, hb, hfb, hnone⟩
    obtain ⟨l₁, l₂, rfl⟩ := append_of_mem hb
    rw [map_append, map_cons, pairwise_append] at hs
    refine findSome?_eq_some_iff.mpr ⟨l₁, b, l₂, rfl, hfb, fun a ha => ?_⟩
    exact hnone a (mem_append_left _ ha) (hs.2.2 _ (mem_map_of_mem ha) _ mem_cons_self)

/-! ## Entries by their key -/

theorem lookup_eq_some_of_mem {l : List (Nat × β)} (hn : (l.map Prod.fst).Nodup) {k : Nat} {v : β}
    (h : (k, v) ∈ l) : l.lookup k = some v := by
  induction l with
  | nil => exact absurd h not_mem_nil
  | cons entry l ih =>
    obtain ⟨j, u⟩ := entry
    rw [map_cons, nodup_cons] at hn
    rcases mem_cons.mp h with heq | hmem
    · obtain ⟨rfl, rfl⟩ := Prod.mk.inj heq
      exact lookup_cons_self
    · have hne : (k == j) = false := beq_eq_false_iff_ne.mpr fun heq =>
        hn.1 (mem_map.mpr ⟨_, hmem, heq⟩)
      rw [lookup_cons, hne]
      exact ih hn.2 hmem

/-- Every entry under one key replaced by the same. -/
theorem lookup_map_replace (l : List (Nat × β)) (slot i : Nat) (b : β) :
    (l.map fun entry => if entry.1 = slot then (slot, b) else entry).lookup i
      = if i = slot then (l.lookup i).map fun _ => b else l.lookup i := by
  induction l with
  | nil => simp
  | cons entry l ih =>
    obtain ⟨j, c⟩ := entry
    by_cases hj : j = slot
    · subst hj
      by_cases hi : i = j
      · simp [hi]
      · have hb : (i == j) = false := beq_eq_false_iff_ne.mpr hi
        simp [hi, ih, lookup_cons, hb]
    · by_cases hi : i = j
      · subst hi
        simp [hj]
      · have hb : (i == j) = false := beq_eq_false_iff_ne.mpr hi
        simp [hj, ih, lookup_cons, hb]

/-! ## Traversals -/

theorem map_eq_of_mapM {f : β → Option γ} {l : List β} :
    ∀ {r : List γ}, l.mapM f = some r → l.map f = r.map some := by
  induction l with
  | nil =>
    intro r h
    obtain rfl : [] = r := by simpa using h
    rfl
  | cons b l ih =>
    intro r h
    simp only [mapM_cons, Option.bind_eq_bind, Option.bind_eq_some_iff, Option.pure_def,
      Option.some.injEq] at h
    obtain ⟨c, hc, r, hr, rfl⟩ := h
    rw [map_cons, map_cons, hc, ih hr]

/-- A traversal that fails nowhere gives a result for every element. -/
theorem exists_mapM_eq_ok {ε : Type} {f : β → Except ε γ} {R : β → γ → Prop} {l : List β}
    (h : ∀ x ∈ l, ∃ y, f x = .ok y ∧ R x y) : ∃ l', l.mapM f = .ok l' ∧ Forall₂ R l l' := by
  induction l with
  | nil => exact ⟨[], rfl, .nil⟩
  | cons x l ih =>
    obtain ⟨⟨y, hy, hxy⟩, h⟩ := forall_mem_cons.mp h
    obtain ⟨l', hl', hrel⟩ := ih h
    refine ⟨y :: l', ?_, .cons hxy hrel⟩
    rw [mapM_cons, hy, hl']
    rfl

/-- A list in which only one member contributes. -/
theorem flatMap_eq_of_mem {l : List β} {f : β → List γ} {b : β} (hb : b ∈ l) (hn : l.Nodup)
    (h : ∀ b' ∈ l, b' ≠ b → f b' = []) : l.flatMap f = f b := by
  obtain ⟨l₁, l₂, rfl⟩ := append_of_mem hb
  have hnot := nodup_middle.mp hn
  rw [nodup_cons, mem_append] at hnot
  have h₁ : l₁.flatMap f = [] := flatMap_eq_nil_iff.mpr fun b' hb' =>
    h b' (mem_append_left _ hb') fun he => hnot.1 (.inl (he ▸ hb'))
  have h₂ : l₂.flatMap f = [] := flatMap_eq_nil_iff.mpr fun b' hb' =>
    h b' (mem_append_right _ (mem_cons_of_mem _ hb')) fun he => hnot.1 (.inr (he ▸ hb'))
  rw [flatMap_append, flatMap_cons, h₁, h₂, nil_append, append_nil]

theorem countP_flatMap_of_forall {l : List β} {f : β → List γ} {p : γ → Bool} {n : Nat}
    (h : ∀ b ∈ l, (f b).countP p = n) : (l.flatMap f).countP p = l.length * n := by
  have hcounts : l.map (countP p ∘ f) = replicate l.length n :=
    eq_replicate_iff.mpr ⟨length_map _, forall_mem_map.mpr h⟩
  rw [countP_flatMap, hcounts, sum_replicate_nat]

/-! ## Lists related element by element -/

section Related

variable {R : β → γ → Prop} {l : List β} {l' : List γ}

theorem map_eq_of_forall₂ {f : β → δ} {f' : γ → δ} (h : Forall₂ R l l')
    (hf : ∀ {x y}, R x y → f' y = f x) : l'.map f' = l.map f := by
  induction h with
  | nil => rfl
  | cons hxy _ ih => rw [map_cons, map_cons, hf hxy, ih]

theorem forall_mem_of_forall₂ {p : β → Prop} {q : γ → Prop} (h : Forall₂ R l l')
    (hq : ∀ {x y}, R x y → p x → q y) (hl : ∀ x ∈ l, p x) : ∀ y ∈ l', q y := by
  induction h with
  | nil => exact forall_mem_nil q
  | cons hxy _ ih =>
    obtain ⟨hx, hl⟩ := forall_mem_cons.mp hl
    exact forall_mem_cons.mpr ⟨hq hxy hx, ih hl⟩

theorem forall₂_trans {S : γ → δ → Prop} {T : β → δ → Prop} {l'' : List δ}
    (h : Forall₂ R l l') (hT : ∀ {x y z}, R x y → S y z → T x z) :
    Forall₂ S l' l'' → Forall₂ T l l'' := by
  induction h generalizing l'' with
  | nil =>
    rintro ⟨⟩
    exact .nil
  | cons hxy _ ih =>
    rintro (_ | ⟨hyz, hrest⟩)
    exact .cons (hT hxy hyz) (ih hrest)

theorem rel_find? {q : β → Bool} {q' : γ → Bool} (h : Forall₂ R l l')
    (hq : ∀ {x y}, R x y → q' y = q x) : Option.Rel R (l.find? q) (l'.find? q') := by
  induction h with
  | nil => exact .none
  | @cons x y _ _ hxy _ ih =>
    rw [find?_cons, find?_cons, hq hxy]
    cases q x with
    | true => exact .some hxy
    | false => exact ih

end Related

end List

theorem Option.rel_bind {β γ δ ε : Type} {R : β → γ → Prop} {S : δ → ε → Prop}
    {f : β → Option δ} {f' : γ → Option ε} {x : Option β} {y : Option γ} (h : Option.Rel R x y)
    (hf : ∀ {a b}, R a b → Option.Rel S (f a) (f' b)) :
    Option.Rel S (x.bind f) (y.bind f') := by
  cases h with
  | some hab => exact hf hab
  | none => exact .none
