/-! Sets of code points given as closed ranges. -/

namespace DualToolchain

/-- Whether one of the closed ranges has the number. -/
def inRanges (ranges : List (Nat × Nat)) (n : Nat) : Bool :=
  ranges.any fun r => r.1 ≤ n && n ≤ r.2

end DualToolchain
