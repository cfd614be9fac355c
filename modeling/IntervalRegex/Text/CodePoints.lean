/-!
# Character sets given by ranges of code points
-/

namespace IntervalRegex.Text

/-- Whether `c` lies in one of the ranges, both ends included. -/
def covers (ranges : List (Nat × Nat)) (c : Char) : Bool :=
  ranges.any fun r => r.1 ≤ c.toNat && c.toNat ≤ r.2

end IntervalRegex.Text
