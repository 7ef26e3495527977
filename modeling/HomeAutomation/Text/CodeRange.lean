/-!
# Ranges of code points

Character properties are kept as lists of closed ranges of code points, in increasing order.
-/

namespace HomeAutomation.Text

/-- The character lies in one of the closed ranges. -/
def inRanges (ranges : List (Nat × Nat)) (c : Char) : Bool :=
  ranges.any fun (first, last) => first ≤ c.toNat && c.toNat ≤ last

end HomeAutomation.Text
