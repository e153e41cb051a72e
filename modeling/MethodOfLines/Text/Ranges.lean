/-!
# Text/Ranges — a class of characters as ranges of code points

A class is a list of closed ranges, ascending and apart. The tables of the library hold the classes
of Unicode 17.0.
-/

namespace MethodOfLines.Text

/-- **Closed ranges of code points.** -/
abbrev Ranges := List (Nat × Nat)

/-- Whether a character lies in one of the ranges. -/
def inRanges (ranges : Ranges) (c : Char) : Bool :=
  ranges.any fun (first, last) => first ≤ c.toNat && c.toNat ≤ last

/-- No range is empty, and each begins after a gap behind the one before it. -/
def isAscending : Ranges → Bool
  | [] => true
  | [(first, last)] => first ≤ last
  | (first, last) :: (next, last') :: rest =>
    first ≤ last && last + 1 < next && isAscending ((next, last') :: rest)

/-- Number of code points in the ranges. -/
def countPoints (ranges : Ranges) : Nat :=
  ranges.foldl (fun n (first, last) => n + (last + 1 - first)) 0

end MethodOfLines.Text
