/-!
# Ranges of code points

A property of characters is given by the ranges of code points that have it.
-/

namespace DryRun.Unicode

/-- Closed ranges of code points, in ascending order and apart from each other. -/
abbrev Ranges := List (Nat × Nat)

/-- Whether a character lies in one of the ranges. -/
def Ranges.covers (ranges : Ranges) (c : Char) : Bool :=
  ranges.any fun (first, last) => first ≤ c.toNat && c.toNat ≤ last

end DryRun.Unicode
