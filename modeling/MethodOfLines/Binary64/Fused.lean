/-!
# Binary64/Fused — the fused product and sum, rounded once

A finite double is `± m · 2^e` in units of the least subnormal, so the exact value of `x * y + z` is
an integer over a power of two. `fma` forms that integer and rounds it once, to the nearest double,
ties to the even significand; subnormal results, overflow and the sign of zero need no case of their
own in the rounding.
-/

namespace MethodOfLines.Binary64

/-- The bit of a normal significand that is not stored, `2^52`. -/
def hiddenBit : Nat := 0x10000000000000

/-- A finite double as a sign and the magnitude `significand · 2^(exponent - 1074)`. -/
structure Parts where
  negative : Bool
  significand : Nat
  exponent : Nat

/-- The parts of a finite double; a subnormal shares the exponent of the least normal double. -/
def parts (x : Float) : Parts :=
  let word := x.toBits
  let exponent := ((word >>> 52) &&& 0x7ff).toNat
  let fraction := (word &&& 0xfffffffffffff).toNat
  { negative := word >>> 63 == 1
    significand := if exponent = 0 then fraction else fraction + hiddenBit
    exponent := exponent - 1 }

/-- `m / 2^d` rounded to the nearest integer, a tie to the even one. -/
def roundShift (m d : Nat) : Nat :=
  let floor := m >>> d
  let twice := 2 * (m - floor <<< d)
  let unit := 1 <<< d
  if twice < unit then floor else if unit < twice then floor + 1 else floor + floor % 2

/-- The magnitude bits of the double nearest to `m · 2^(e - 2148)`, for `m` not zero. The spacing
`2^(q - 2148)` of the doubles around that value leaves 53 bits, and is at least that of the
subnormals; a carry out of the significand moves to the exponent by itself, and what lies above the
largest double is infinite. -/
def roundMagnitude (m e : Nat) : Nat :=
  let q := max (e + m.log2 - 52) 1074
  let significand := if q ≤ e then m <<< (e - q) else roundShift m (q - e)
  min ((q - 1074) * hiddenBit + significand) 0x7ff0000000000000

/-- The double with the given sign and nearest to `m · 2^(e - 2148)`. -/
def ofSum (negative : Bool) (m e : Nat) : Float :=
  let magnitude := if m = 0 then 0 else roundMagnitude m e
  Float.ofBits (magnitude.toUInt64 ||| if negative then 0x8000000000000000 else 0)

/-- `x * y + z` for finite operands, rounded once. An exact zero is negative only if both the
product and the addend are. -/
def fmaFinite (x y z : Parts) : Float :=
  let product := x.exponent + y.exponent
  let addend := z.exponent + 1074
  let e := min product addend
  let p := (x.significand * y.significand) <<< (product - e)
  let s := z.significand <<< (addend - e)
  let negative := x.negative != y.negative
  if negative == z.negative then ofSum negative (p + s) e
  else if s < p then ofSum negative (p - s) e
  else if p < s then ofSum z.negative (s - p) e
  else ofSum false 0 e

/-- **`x * y + z`, rounded once.** With an operand that is not finite nothing is rounded, and the
result is the addend or follows from the product. -/
def fma (x y z : Float) : Float :=
  if x.isFinite && y.isFinite then
    if z.isFinite then fmaFinite (parts x) (parts y) (parts z) else z
  else x * y + z

end MethodOfLines.Binary64
