/-!
# Ranges of characters

Character classes that are too irregular for a formula are lists of inclusive ranges of code points.
-/

namespace RouterTelemetry.Text

/-- Whether the code point of `c` lies in one of the inclusive ranges. -/
def inRanges (ranges : List (Nat × Nat)) (c : Char) : Bool :=
  ranges.any fun r => r.1 ≤ c.toNat && c.toNat ≤ r.2

end RouterTelemetry.Text
