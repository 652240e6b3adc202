import AlignedLedger.Bytes

/-! LEB128: seven bits a byte, lowest first, the high bit set on every byte but the last. -/

namespace AlignedLedger

def leb128 (n : Nat) : Bytes :=
  if n < 128 then [UInt8.ofNat n] else UInt8.ofNat (n % 128 + 128) :: leb128 (n / 128)
termination_by n
decreasing_by omega

end AlignedLedger
