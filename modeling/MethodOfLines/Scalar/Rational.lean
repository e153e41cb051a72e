import MethodOfLines.Scalar

/-!
# Scalar/Rational — the exact reading

Over the rationals nothing is rounded: a fused product is the product plus the addend, every number
is finite, and zero has one sign.
-/

namespace MethodOfLines

/-- **Exact arithmetic as a `Scalar`.** -/
instance instScalarRat : Scalar Rat where
  zero := Rat.ofInt 0
  one := Rat.ofInt 1
  neg := Rat.neg
  add := Rat.add
  sub := Rat.sub
  mul := Rat.mul
  div := Rat.div
  natCast n := Rat.ofInt n
  fma x y z := Rat.add (Rat.mul x y) z
  isFinite _ := true
  isZero x := x == Rat.ofInt 0
  isPositive x := Rat.blt (Rat.ofInt 0) x

end MethodOfLines
