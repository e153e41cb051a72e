import MethodOfLines.Scalar
import MethodOfLines.Text.Blank

/-!
# Scheme/Tableau — explicit Runge-Kutta methods

A tableau lists, for each stage, the weights of the earlier rates in its argument (`a`), its weight
in the result (`b`) and its place within the step (`c`). Its shape is part of the type: row `i` of
`a` has `i` entries, `b` and `c` have one entry per stage, and there are one to eight stages. It is
*diagonal* when a stage's argument uses the rate of the stage just before it and of no other; only
such a method runs in four buffers.
-/

namespace MethodOfLines

/-- **Why a scheme is refused.** -/
inductive SchemeError where
  | unknownScheme (name : String)
  /-- The scheme needs more than four buffers. -/
  | notDiagonal (name : String)
  | malformed (reason : String)
  deriving DecidableEq, Repr

/-- The text of a scheme error. -/
def SchemeError.message : SchemeError → String
  | unknownScheme name => s!"unknown Runge-Kutta scheme '{name}'"
  | notDiagonal name => s!"scheme '{name}' is not diagonal and cannot run in four buffers"
  | malformed reason => s!"malformed Butcher tableau: {reason}"

/-- Most stages a tableau may have. -/
def maxStages : Nat := 8

/-- **The coefficients of an explicit Runge-Kutta method.** -/
structure Tableau (α : Type) where
  name : String
  /-- Strictly lower triangular: row `i` has `i` entries. -/
  a : List (List α)
  b : List α
  c : List α
  stages_pos : 0 < b.length := by simp
  stages_le : b.length ≤ maxStages := by simp [maxStages]
  triangular : a.map List.length = List.range b.length := by rfl
  nodes : c.length = b.length := by rfl

namespace Tableau

variable {α : Type}

/-- The first row whose length is not its number. -/
def raggedRow? (a : List (List α)) : Option (List α × Nat) :=
  a.zipIdx.find? fun (row, i) => row.length != i

theorem triangular_of_raggedRow?_eq_none {a : List (List α)} (h : raggedRow? a = none) :
    a.map List.length = List.range a.length := by
  refine List.ext_getElem (by simp) fun i hi _ => ?_
  have hia : i < a.length := by simpa using hi
  have := List.find?_eq_none.mp h (a[i], i) (List.mem_zipIdx_iff_getElem?.mpr (by simp [hia]))
  simpa using this

/-- **A tableau from its coefficients**, if they have the right shape and are finite. -/
def make [Scalar α] (name : String) (a : List (List α)) (b c : List α) :
    Except SchemeError (Tableau α) :=
  if hPos : b.length = 0 then .error (.malformed "tableau has no stages")
  else if hLe : maxStages < b.length then
    .error (.malformed s!"{b.length} stages exceeds the maximum of {maxStages}")
  else if hRows : a.length ≠ b.length ∨ c.length ≠ b.length then
    .error (.malformed
      s!"a has {a.length} rows and c has {c.length} entries, expected {b.length}")
  else match hRagged : raggedRow? a with
    | some (row, i) =>
      .error (.malformed s!"row {i} of a has {row.length} entries, expected {i}")
    | none =>
      if (a.flatten ++ b ++ c).all Scalar.isFinite then
        .ok
          { name, a, b, c
            stages_pos := Nat.pos_of_ne_zero hPos
            stages_le := Nat.le_of_not_lt hLe
            triangular := by
              have h : a.length = b.length := by omega
              rw [← h]
              exact triangular_of_raggedRow?_eq_none hRagged
            nodes := by omega }
      else .error (.malformed "coefficients must be finite")

/-- Number of stages. -/
def stages (t : Tableau α) : Nat := t.b.length

/-- Weight of rate `j` in the argument of stage `i`; zero outside the triangle. -/
def entry [Zero α] (t : Tableau α) (i j : Nat) : α := ((t.a[i]?).bind (·[j]?)).getD 0

/-- Weight of rate `i` in the result. -/
def weight [Zero α] (t : Tableau α) (i : Nat) : α := (t.b[i]?).getD 0

/-- Place of stage `i` within the step. -/
def node [Zero α] (t : Tableau α) (i : Nat) : α := (t.c[i]?).getD 0

/-- **Whether every stage uses only the rate just before it.** -/
def isDiagonal [Scalar α] (t : Tableau α) : Bool :=
  t.a.zipIdx.all fun (row, i) => (row.take (i - 1)).all Scalar.isZero

end Tableau

end MethodOfLines
