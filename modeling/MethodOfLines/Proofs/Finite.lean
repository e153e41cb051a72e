import MethodOfLines.Operator.Basic

/-!
# Proofs/Finite — what the search for values that are not finite finds
-/

namespace MethodOfLines

variable {α : Type} [Scalar α] {points : Nat} {values : Array α}

/-- **The search passes exactly if every value is finite**, where there are points. -/
theorem checkFinite_eq_ok_iff (hp : 0 < points) :
    checkFinite points values = .ok () ↔ ∀ x ∈ values, Scalar.isFinite x = true := by
  rw [checkFinite, if_neg (Nat.ne_of_gt hp)]
  cases h : values.findIdx? (!Scalar.isFinite ·) with
  | none => simpa using h
  | some i =>
    obtain ⟨hi, hbad, -⟩ := Array.findIdx?_eq_some_iff_getElem.mp h
    refine iff_of_false (by simp) fun hall => ?_
    rw [hall _ (Array.getElem_mem hi)] at hbad
    cases hbad

/-- **The search stops at the first value that is not finite**, and names its field and point. -/
theorem checkFinite_eq_error {reason : EvalError} (h : checkFinite points values = .error reason) :
    ∃ i x, values[i]? = some x ∧ Scalar.isFinite x = false
      ∧ (∀ j < i, ∀ y, values[j]? = some y → Scalar.isFinite y = true)
      ∧ reason = .nanDetected (i / points) (some (i % points)) := by
  rw [checkFinite] at h
  split at h
  · cases h
  · cases hfind : values.findIdx? (!Scalar.isFinite ·) with
    | none => rw [hfind] at h; cases h
    | some i =>
      rw [hfind] at h
      obtain ⟨hi, hbad, hbefore⟩ := Array.findIdx?_eq_some_iff_getElem.mp hfind
      refine ⟨i, values[i], Array.getElem?_eq_getElem hi, by simpa using hbad,
        fun j hj y hy => ?_, (Except.error.inj h).symm⟩
      obtain ⟨-, rfl⟩ := Array.getElem?_eq_some_iff.mp hy
      simpa using hbefore j hj

end MethodOfLines
