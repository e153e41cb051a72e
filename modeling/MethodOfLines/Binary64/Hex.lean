/-!
# Binary64/Hex — a double by its bits

A double is exchanged as the sixteen hexadecimal digits of its word, most significant first, and any
NaN as `nan`.
-/

namespace MethodOfLines.Binary64

/-- A digit below sixteen. -/
def hexDigit (n : Nat) : Char :=
  if n < 10 then Char.ofNat ('0'.toNat + n) else Char.ofNat ('a'.toNat + (n - 10))

/-- The sixteen digits of a word. -/
def wordToHex (w : UInt64) : String :=
  String.ofList ((List.range 16).map fun i => hexDigit ((w.toNat >>> (4 * (15 - i))) % 16))

/-- **A double by its bits.** -/
def toHex (x : Float) : String := if x.isNaN then "nan" else wordToHex x.toBits

/-- The value of a hexadecimal digit. -/
def hexValue? (c : Char) : Option Nat :=
  if '0' ≤ c ∧ c ≤ '9' then some (c.toNat - '0'.toNat)
  else if 'a' ≤ c ∧ c ≤ 'f' then some (c.toNat - 'a'.toNat + 10)
  else none

/-- **The double of sixteen digits**, or of `nan`. -/
def ofHex? (s : String) : Option Float :=
  if s = "nan" then some (0.0 / 0.0)
  else do
    let digits ← s.toList.mapM hexValue?
    if digits.length = 16 then
      some (Float.ofBits (digits.foldl (fun n d => 16 * n + d) 0).toUInt64)
    else none

end MethodOfLines.Binary64
