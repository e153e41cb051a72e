import MethodOfLines.Binary64.Fused

/-!
# Binary64/Decimal — the shortest positional decimal

A double is written with the fewest significant digits that read back to it, and of those with the
digits nearest to it. The search is over the grids of multiples of a power of ten, coarsest first:
on each it tries the two multiples around the value, and stops at the first that rounds to the
double. The digits are then laid out positionally, without exponent and without a trailing fraction
of zero. -/

namespace MethodOfLines.Binary64

/-- A decimal `digits · 10^(up - down)`, of which one of the two exponents is zero. -/
structure Decimal where
  digits : Nat
  up : Nat
  down : Nat

/-- The reals that round to a double, as fractions over one denominator: those between `low` and
`high`, ends included when the significand is even. -/
structure Interval where
  low : Nat
  value : Nat
  high : Nat
  denominator : Nat
  closed : Bool

/-- The interval of a double that is finite and not zero. The gap below a power of two is half the
gap above it, except next to the subnormals. -/
def interval (p : Parts) : Interval :=
  let value := 4 * p.significand
  let below := if p.significand = hiddenBit ∧ p.exponent ≠ 0 then 1 else 2
  { low := (value - below) <<< p.exponent
    value := value <<< p.exponent
    high := (value + 2) <<< p.exponent
    denominator := 1 <<< 1076
    closed := p.significand % 2 == 0 }

/-- Whether the fraction `x / denominator` rounds to the double. -/
def Interval.holds (r : Interval) (x : Nat) : Bool :=
  if r.closed then r.low ≤ x && x ≤ r.high else r.low < x && x < r.high

/-- The multiple of `10^(up - down)` that is nearest to the value and rounds to it, if one of its
two neighbours does. Of two equally near the larger is taken. -/
def Interval.onGrid? (r : Interval) (up down : Nat) : Option Decimal :=
  let scale := Nat.pow 10 down
  let scaled : Interval :=
    { r with low := r.low * scale, value := r.value * scale, high := r.high * scale }
  let unit := r.denominator * Nat.pow 10 up
  let floor := scaled.value / unit
  let below := floor * unit
  let above := (floor + 1) * unit
  if scaled.holds above && (!scaled.holds below || above - scaled.value ≤ scaled.value - below) then
    some ⟨floor + 1, up, down⟩
  else if scaled.holds below then some ⟨floor, up, down⟩
  else none

/-- The shortest decimal of the interval: no double needs a unit above `10^309` or below
`10^(-342)`. -/
def Interval.shortest? (r : Interval) : Option Decimal :=
  (List.range 652).findSome? fun i => r.onGrid? (309 - i) (i - 309)

/-- Positional notation: zeros up to the point, or a fraction of `down` places. -/
def Decimal.positional (d : Decimal) : List Char :=
  let digits := Nat.toDigits 10 d.digits
  if d.down = 0 then digits ++ List.replicate d.up '0'
  else if d.down < digits.length then
    digits.take (digits.length - d.down) ++ '.' :: digits.drop (digits.length - d.down)
  else '0' :: '.' :: List.replicate (d.down - digits.length) '0' ++ digits

/-- **The text of a double in a message.** -/
def text (x : Float) : String :=
  if x.isNaN then "NaN" else
    let p := parts x
    let sign := if p.negative then "-" else ""
    if !x.isFinite then sign ++ "inf"
    else if p.significand = 0 then sign ++ "0"
    else match (interval p).shortest? with
      | some d => sign ++ String.ofList d.positional
      | none => sign

end MethodOfLines.Binary64
