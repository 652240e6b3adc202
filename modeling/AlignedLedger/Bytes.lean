/-! Byte strings as lists, with the two ways to change the zeros at their end. -/

namespace AlignedLedger

abbrev Bytes := List UInt8

namespace Bytes

/-- Drops the zero bytes at the end. -/
def stripZeros (b : Bytes) : Bytes := (b.reverse.dropWhile (· == 0)).reverse

/-- The last byte, if there is one, is not zero. -/
def Trimmed (b : Bytes) : Prop := b.getLast? ≠ some 0

instance (b : Bytes) : Decidable b.Trimmed := inferInstanceAs (Decidable (¬ _))

def zeros (n : Nat) : Bytes := List.replicate n 0

/-- Fills up with zeros to `n` bytes; a longer string stays as it is. -/
def padTo (n : Nat) (b : Bytes) : Bytes := b ++ zeros (n - b.length)

theorem length_padTo (n : Nat) (b : Bytes) : (b.padTo n).length = max n b.length := by
  rw [padTo, zeros, List.length_append, List.length_replicate]
  omega

end Bytes

end AlignedLedger
