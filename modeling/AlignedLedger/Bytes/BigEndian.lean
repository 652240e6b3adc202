import AlignedLedger.Bytes

/-! Natural numbers as bytes, highest first. -/

namespace AlignedLedger.BigEndian

def toNat (b : Bytes) : Nat := b.foldl (fun n x => 256 * n + x.toNat) 0

/-- As many bytes as the number needs, none for zero. -/
def ofNat (n : Nat) : Bytes :=
  if n = 0 then [] else ofNat (n / 256) ++ [UInt8.ofNat (n % 256)]
termination_by n
decreasing_by omega

/-- The lowest `width` bytes of a number. -/
def ofNatFixed : Nat → Nat → Bytes
  | 0, _ => []
  | width + 1, n => ofNatFixed width (n / 256) ++ [UInt8.ofNat (n % 256)]

end AlignedLedger.BigEndian
