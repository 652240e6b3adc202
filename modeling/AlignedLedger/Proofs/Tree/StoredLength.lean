import AlignedLedger.Alignment.Room
import AlignedLedger.Proofs.Alignment.Segments
import AlignedLedger.Proofs.Cbor.RoundTrip
import AlignedLedger.Tree.Persistence

/-! How long stored forms are at most. -/

namespace AlignedLedger

namespace Cbor

/-- A head has its argument in no more than eight bytes. -/
theorem length_head_le (major n : Nat) : (head major n).length ≤ 9 := by
  unfold head
  split
  · simp
  · repeat' split
    all_goals simp

theorem length_encode_bytes_le (b : Bytes) : (encode (.bytes b)).length ≤ 9 + b.length := by
  have hhead := length_head_le 2 b.length
  rw [encode, encodeBytes, List.length_append]
  omega

theorem length_encode_text_le (s : String) : (encode (.text s)).length ≤ 9 + (Utf8.encode s).length := by
  have hhead := length_head_le 3 (Utf8.encode s).length
  rw [encode, encodeBytes, List.length_append]
  omega

theorem length_encode_nat_le {n : Nat} (hn : n < 2 ^ 64) : (encode (.nat n)).length ≤ 9 := by
  have hsmall : encode (.nat n) = head 0 n := if_pos hn
  rw [hsmall]
  exact length_head_le 0 n

theorem length_encode_array_le (xs : List Item) :
    (encode (.array xs)).length ≤ 9 + (encodeList xs).length := by
  have hhead := length_head_le 4 xs.length
  rw [encode, List.length_append]
  omega

end Cbor

theorem Atom.length_encode_toItem_le {a : Atom} (ha : a.length < 2 ^ 64) :
    (Cbor.encode a.toItem).length ≤ 35 := by
  have hname : (Utf8.encode a.kindName).length ≤ 8 := by
    cases a <;> exact Nat.le_of_ble_eq_true rfl
  have htext := Cbor.length_encode_text_le a.kindName
  have hlength := Cbor.length_encode_nat_le ha
  refine (Cbor.length_encode_array_le _).trans ?_
  simp only [Cbor.encodeList, List.length_append, List.length_nil]
  omega

theorem Slot.length_le_binaryLength (s : Slot) :
    s.atom.length ≤ s.binaryLength ∧ s.segment.length ≤ s.binaryLength := by
  obtain ⟨a, segment, -⟩ := s
  cases a with
  | bytes n => exact ⟨Nat.le_max_left n _, Nat.le_max_right n _⟩
  | field => exact ⟨Nat.zero_le _, Nat.le_max_right _ _⟩
  | compress => exact ⟨Nat.zero_le _, Nat.le_add_left _ _⟩

/-- The slots of an aligned value are written twice, once for what they hold and once for their atoms. -/
theorem AlignedValue.length_encode_toItem_le {v : AlignedValue} (hv : v.binaryLength < 2 ^ 64) :
    (Cbor.encode v.toItem).length ≤ 27 + 44 * v.slots.length + v.binaryLength := by
  have hslots : (Cbor.encodeList (v.segments.map Cbor.Item.bytes)).length +
      (Cbor.encodeList (v.alignment.map Atom.toItem)).length ≤
        44 * v.slots.length + v.binaryLength := by
    revert hv
    unfold segments alignment binaryLength
    induction v.slots with
    | nil => simp [Cbor.encodeList]
    | cons s slots ih =>
      intro hv
      rw [List.foldr_cons] at hv
      have hrest := ih (by omega)
      have hsegment := Cbor.length_encode_bytes_le s.segment
      have hwide := s.length_le_binaryLength
      have hatom := s.atom.length_encode_toItem_le (by omega)
      simp only [List.map_cons, Cbor.encodeList, List.length_append, List.length_cons, List.foldr_cons]
      omega
  have hsegments := Cbor.length_encode_array_le (v.segments.map Cbor.Item.bytes)
  have hatoms := Cbor.length_encode_array_le (v.alignment.map Atom.toItem)
  refine (Cbor.length_encode_array_le _).trans ?_
  simp only [Cbor.encodeList, List.length_append, List.length_nil]
  omega

end AlignedLedger
