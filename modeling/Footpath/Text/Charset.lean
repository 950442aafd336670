/-! Sets of characters given by ranges of code points, as the character tables write them. -/
namespace Footpath.Text

/-- Whether `c` lies in one of the ranges, both ends included. -/
def within (ranges : List (Nat × Nat)) (c : Char) : Bool :=
  ranges.any fun r => r.1 ≤ c.toNat && c.toNat ≤ r.2

end Footpath.Text
