import MethodOfLines.Binary64.Fused
import MethodOfLines.Scalar

/-!
# Binary64/Scalar — doubles as a `Scalar`

Every operation rounds to nearest, ties to even; only `fma` is not already an operation of `Float`.
-/

namespace MethodOfLines

/-- **Binary64 as a `Scalar`.** A natural number stands for the nearest double. -/
instance instScalarFloat : Scalar Float where
  neg := Float.neg
  add := Float.add
  sub := Float.sub
  mul := Float.mul
  div := Float.div
  zero := 0.0
  one := 1.0
  natCast := Float.ofNat
  fma := Binary64.fma
  isFinite := Float.isFinite
  isZero x := x == 0.0
  isPositive x := 0.0 < x

instance instExponentialFloat : Exponential Float where
  exp := Float.exp

end MethodOfLines
