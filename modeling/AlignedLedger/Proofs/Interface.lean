import AlignedLedger.Interface
import AlignedLedger.Proofs.Bytes.Digits
import AlignedLedger.Proofs.Success

/-! What the basic operations come to for the arguments that they are made for: natural numbers, truth values
and members of enumerations among them, and byte strings of either kind. -/

namespace AlignedLedger

theorem Datum.toBytes_of_bytes? [Memory] {d : Datum} {b : Bytes} (h : d.bytes? = some b) : d.toBytes = .ok b := by
  cases d <;> cases h <;> rfl

theorem numberToBytes_of_integer? [Memory] {value : Datum} {n w : Nat} (hn : value.integer? = some (n : Int)) :
    numberToBytes w value =
      if n < 256 ^ w then (Memory.request w).map fun _ => LittleEndian.ofNatPadded w n
      else .error (.numberTooWide n (.int w)) := by
  have hfits : ((LittleEndian.ofNat n).length : Int) ≤ w ↔ n < 256 ^ w :=
    Int.ofNat_le.trans LittleEndian.fits_iff
  simp only [numberToBytes, hn, hfits, Int.toNat_natCast, bind_pure_eq_map]

namespace Interface

variable {d width value : Datum} {b : Bytes} {n w : Nat}

theorem bitLength_le_iff {k : Nat} : bitLength n ≤ k ↔ n < 2 ^ k := by
  unfold bitLength
  split
  · next hn => exact iff_of_true (Nat.zero_le k) (hn ▸ Nat.two_pow_pos k)
  · next hn => rw [Nat.succ_le_iff, Nat.log2_lt hn]

variable [Memory]

theorem call_stripSegment (h : d.bytes? = some b) :
    call "strip_segment" [d] = .ok (.bytes b.stripZeros) := by
  rw [call, Datum.toBytes_of_bytes? h]
  rfl

theorem call_intToSegment (h : d.index? = some (n : Int)) :
    call "int_to_segment" [d] = .ok (.bytes (LittleEndian.ofNat n)) := by
  simp only [call, intToSegment, h]
  rfl

theorem call_segmentToInt (h : d.bytes? = some b) :
    call "segment_to_int" [d] = .ok (.int (LittleEndian.toNat b)) := by
  have hi : d.index? = none := by
    cases d <;> cases h <;> rfl
  simp only [call, segmentToInt, hi, Datum.toBytes_of_bytes? h]
  rfl

theorem call_encodeLeb128 (h : d.index? = some (n : Int)) :
    call "uvarint_encode" [d] = .ok (.bytes (leb128 n)) := by
  simp only [call, encodeLeb128, h]

theorem call_bytesToField (h : d.bytes? = some b) :
    call "bytes_to_field" [d] = .ok (.int (LittleEndian.toNat b)) := by
  simp only [call, bytesLike, h]
  rfl

theorem roomFor_of_index? {refusal : Fault} (hw : width.index? = some (w : Int)) :
    roomFor (bitLength n) 8 width refusal =
      if n < 256 ^ w then (Memory.request w).map fun _ => w else .error refusal := by
  have hbits : n < 256 ^ w ↔ bitLength n ≤ 8 * w := by
    rw [bitLength_le_iff, Nat.pow_mul]
  have hroom : (w : Int) * (8 : Nat) < bitLength n ↔ ¬ n < 256 ^ w := by
    rw [hbits]
    omega
  simp only [roomFor, hw, hroom]
  by_cases h : n < 256 ^ w
  · rw [if_pos h, if_neg (not_not_intro h)]
    exact bind_pure_eq_map
  · rw [if_neg h, if_pos h]
    rfl

/-- The range is told by the bytes of the number or by its bits; it is the same range. -/
theorem call_fieldToBytes (hw : width.index? = some (w : Int)) (hn : value.integer? = some (n : Int)) :
    call "field_to_bytes" [width, value] =
      if n < 256 ^ w then (Memory.request w).map fun _ => .bytes (LittleEndian.ofNatPadded w n)
      else .error (.numberTooWide n width) := by
  have hother : ∀ refusal : Fault, (roomFor (bitLength n) 8 width refusal >>= fun m =>
      pure (Datum.bytes (LittleEndian.ofNatPadded m n))) =
      if n < 256 ^ w then (Memory.request w).map fun _ => .bytes (LittleEndian.ofNatPadded w n)
      else .error refusal := by
    intro refusal
    rw [roomFor_of_index? hw]
    split
    · cases Memory.request w <;> rfl
    · rfl
  cases width with
  | int i =>
    cases hw
    simp only [call, fieldToBytes, numberToBytes_of_integer? hn]
    split
    · cases Memory.request w <;> rfl
    · rfl
  | bool b =>
    simp only [call, fieldToBytes, hn]
    exact hother _
  | member cls name i =>
    simp only [call, fieldToBytes, hn]
    exact hother _
  | _ => cases hw

end Interface

end AlignedLedger
