/-!
# Scalar — the arithmetic a step is written over

Kernels, stencils, clocks and plans are generic in their number type. A `Scalar` only names the
operations they use and assumes no law of them, because rounded arithmetic has few: a statement made
for every `Scalar` holds operation by operation, whatever the rounding. Binary64 runs the library
(`Binary64/Scalar`), and the rationals give the exact reading of the same definitions
(`Scalar/Rational`).
-/

namespace MethodOfLines

/-- **The operations a step needs of its numbers.** -/
class Scalar (α : Type) extends Zero α, One α, Neg α, Add α, Sub α, Mul α, Div α, NatCast α where
  /-- `fma x y z` is `x * y + z` with a single rounding. -/
  fma : α → α → α → α
  /-- Neither infinite nor undefined. -/
  isFinite : α → Bool
  /-- Zero of either sign. -/
  isZero : α → Bool
  /-- Strictly above zero. -/
  isPositive : α → Bool

/-- **The exponential**, asked for only where an initial state is a Gaussian. -/
class Exponential (α : Type) where
  /-- `e` to the given power. -/
  exp : α → α

end MethodOfLines
