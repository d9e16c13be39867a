/-!
# Sets of characters as ranges
-/
namespace ChatGateway.Text

/-- The character lies in one of the ranges, ends included. -/
def inRanges (ranges : List (Nat × Nat)) (c : Char) : Bool :=
  ranges.any fun (low, high) => low ≤ c.toNat && c.toNat ≤ high

end ChatGateway.Text
