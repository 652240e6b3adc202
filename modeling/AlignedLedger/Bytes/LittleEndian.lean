import AlignedLedger.Bytes

/-! Natural numbers as bytes, lowest first. -/

namespace AlignedLedger.LittleEndian

def toNat : Bytes → Nat
  | [] => 0
  | b :: bs => b.toNat + 256 * toNat bs

/-- As many bytes as the number needs, none for zero. -/
def ofNat (n : Nat) : Bytes :=
  if n = 0 then [] else UInt8.ofNat (n % 256) :: ofNat (n / 256)
termination_by n
decreasing_by omega

/-- A number written in a slot of `width` bytes. -/
def ofNatPadded (width n : Nat) : Bytes := (ofNat n).padTo width

/-- The number has a form of at most `width` bytes. -/
def Fits (width n : Nat) : Prop := (ofNat n).length ≤ width

instance (width n : Nat) : Decidable (Fits width n) := inferInstanceAs (Decidable (_ ≤ _))

end AlignedLedger.LittleEndian
