/-! Classes of characters as closed ranges of code points. -/

namespace AlignedLedger.Text

def inRanges (ranges : List (Nat × Nat)) (c : Char) : Bool :=
  ranges.any fun r => r.1 ≤ c.toNat && c.toNat ≤ r.2

end AlignedLedger.Text
