/-!
# Checksum — a fingerprint of a buffer

The 64-bit FNV-1a hash of the binary64 words of a buffer, most significant byte first. Every NaN
counts as the same word.
-/

namespace MethodOfLines.Checksum

/-- Start of the hash. -/
def offsetBasis : UInt64 := 0xcbf29ce484222325

/-- Multiplier of the hash. -/
def prime : UInt64 := 0x100000001b3

/-- The hash with one more byte. -/
def addByte (hash byte : UInt64) : UInt64 := (hash ^^^ byte) * prime

/-- The word a double counts as. -/
def word (x : Float) : UInt64 := if x.isNaN then 0x7ff8000000000000 else x.toBits

/-- The hash with the eight bytes of a word more. -/
def addWord (hash w : UInt64) : UInt64 :=
  let shifts : List UInt64 := [56, 48, 40, 32, 24, 16, 8, 0]
  shifts.foldl (fun h shift => addByte h ((w >>> shift) &&& 0xff)) hash

/-- **The fingerprint of a buffer.** -/
def ofArray (values : Array Float) : UInt64 :=
  values.foldl (fun hash x => addWord hash (word x)) offsetBasis

end MethodOfLines.Checksum
