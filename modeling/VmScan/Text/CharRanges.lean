/-!
# Sets of characters

A set of characters is written as ascending, disjoint ranges of code points, both ends included.
-/

namespace VmScan.Text

/-- A set of characters, as inclusive ranges of code points. -/
structure CharRanges where
  ranges : List (Nat × Nat)

/-- Whether the character lies in one of the ranges. -/
def CharRanges.contains (set : CharRanges) (c : Char) : Bool :=
  set.ranges.any fun (first, last) => first ≤ c.toNat && c.toNat ≤ last

end VmScan.Text
