import MethodOfLines.Scheme.Tableau

/-!
# Scheme/Catalogue — the methods known by name

A method is found by its name, without the blanks around it and regardless of the case of ASCII
letters. All but the strong-stability-preserving one are diagonal.
-/

namespace MethodOfLines.Tableau

variable {α : Type} [Scalar α]

/-- The coefficient `p / q`. -/
def ratio (p q : Nat) : α := (p : α) / (q : α)

/-- Forward Euler. -/
def euler : Tableau α :=
  { name := "Euler", a := [[]], b := [1], c := [0] }

/-- **Heun's predictor and corrector**, the method used when none is named. -/
def heun : Tableau α :=
  { name := "RK2 Heun", a := [[], [1]], b := [ratio 1 2, ratio 1 2], c := [0, 1] }

/-- Explicit midpoint. -/
def midpoint : Tableau α :=
  { name := "RK2 MP", a := [[], [ratio 1 2]], b := [0, 1], c := [0, ratio 1 2] }

/-- Ralston's method of second order. -/
def ralston : Tableau α :=
  { name := "RK2 Ralston"
    a := [[], [ratio 2 3]]
    b := [ratio 1 4, ratio 3 4]
    c := [0, ratio 2 3] }

/-- Heun's method of third order. -/
def heunThird : Tableau α :=
  { name := "RK3 Heun"
    a := [[], [ratio 1 3], [0, ratio 2 3]]
    b := [ratio 1 4, 0, ratio 3 4]
    c := [0, ratio 1 3, ratio 2 3] }

/-- Ralston's method of third order. -/
def ralstonThird : Tableau α :=
  { name := "RK3 Ralston"
    a := [[], [ratio 1 2], [0, ratio 3 4]]
    b := [ratio 2 9, ratio 1 3, ratio 4 9]
    c := [0, ratio 1 2, ratio 3 4] }

/-- The strong-stability-preserving method of third order, whose last stage uses two rates. -/
def strongStability : Tableau α :=
  { name := "SSPRK3"
    a := [[], [1], [ratio 1 4, ratio 1 4]]
    b := [ratio 1 6, ratio 1 6, ratio 2 3]
    c := [0, 1, ratio 1 2] }

/-- The classic method of fourth order. -/
def classic : Tableau α :=
  { name := "RK4"
    a := [[], [ratio 1 2], [0, ratio 1 2], [0, 0, 1]]
    b := [ratio 1 6, ratio 1 3, ratio 1 3, ratio 1 6]
    c := [0, ratio 1 2, ratio 1 2, 1] }

/-- Every method known by name. -/
def catalogue : List (Tableau α) :=
  [euler, heun, midpoint, ralston, heunThird, ralstonThird, strongStability, classic]

/-- **The method of a name.** -/
def ofName (name : String) : Except SchemeError (Tableau α) :=
  let key := (Text.trim name.toList).map Char.toUpper
  match catalogue.find? fun t => t.name.toList.map Char.toUpper == key with
  | some t => .ok t
  | none => .error (.unknownScheme name)

end MethodOfLines.Tableau
