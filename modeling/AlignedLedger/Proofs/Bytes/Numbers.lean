import AlignedLedger.Proofs.Bytes.Padding
import AlignedLedger.Proofs.Interface
import Mathlib.Data.Nat.Size
import Mathlib.Order.Nat

/-! Numbers in their shortest form and in the form of a full width: zeros at the end of a byte string do not
matter to its number, and every form gives the number back. -/

namespace AlignedLedger

namespace LittleEndian

/-- A byte for every eight bits. -/
theorem length_ofNat (n : Nat) : (ofNat n).length = (n.size + 7) / 8 := by
  refine eq_of_forall_ge_iff fun w => ?_
  have hbits : (n.size + 7) / 8 ≤ w ↔ n.size ≤ 8 * w := by omega
  rw [hbits, Nat.size_le, Nat.pow_mul]
  exact fits_iff

theorem toNat_zeros (k : Nat) : toNat (Bytes.zeros k) = 0 := by
  induction k with
  | zero => rfl
  | succ k ih =>
    have hzeros : Bytes.zeros (k + 1) = 0 :: Bytes.zeros k := rfl
    rw [hzeros, toNat, ih]
    rfl

theorem toNat_append_zeros (b : Bytes) (k : Nat) : toNat (b ++ Bytes.zeros k) = toNat b := by
  induction b with
  | nil => exact toNat_zeros k
  | cons x b ih => rw [List.cons_append, toNat, toNat, ih]

theorem toNat_stripZeros (b : Bytes) : toNat b.stripZeros = toNat b := by
  have h := toNat_append_zeros b.stripZeros (b.length - b.stripZeros.length)
  rwa [Bytes.stripZeros_append_missing, eq_comm] at h

/-- The shortest form of what a byte string stands for is the string without the zeros at its end. -/
theorem ofNat_toNat_eq_stripZeros (b : Bytes) : ofNat (toNat b) = b.stripZeros := by
  rw [← toNat_stripZeros, ofNat_toNat (Bytes.trimmed_stripZeros b)]

theorem toNat_ofNatPadded (w n : Nat) : toNat (ofNatPadded w n) = n := by
  rw [ofNatPadded, Bytes.padTo, toNat_append_zeros, toNat_ofNat]

theorem length_ofNatPadded {w n : Nat} (h : n < 256 ^ w) : (ofNatPadded w n).length = w :=
  (Bytes.length_padTo w (ofNat n)).trans (Nat.max_eq_left (fits_iff.mpr h))

theorem ofNatPadded_toNat (b : Bytes) : ofNatPadded b.length (toNat b) = b := by
  rw [ofNatPadded, ofNat_toNat_eq_stripZeros, Bytes.padTo_stripZeros rfl]

end LittleEndian

namespace Interface

open LittleEndian

variable {d width value r : Datum} {b : Bytes} {n w : Nat}

theorem index?_of_integer? {i : Int} (h : d.integer? = some i) : d.index? = some i := by
  cases d <;> cases h <;> rfl

section

variable [Memory]

/-- What can be in the way of a number that is in range is that there is no room for the bytes. -/
theorem call_fieldToBytes_eq_ok (hw : width.index? = some (w : Int)) (hn : value.integer? = some (n : Int)) :
    call "field_to_bytes" [width, value] = .ok r ↔
      n < 256 ^ w ∧ w ≤ Memory.available ∧ r = .bytes (ofNatPadded w n) := by
  rw [call_fieldToBytes hw hn]
  by_cases h : n < 256 ^ w
  · rw [if_pos h, map_eq_ok]
    constructor
    · rintro ⟨_, hroom, rfl⟩
      exact ⟨h, Memory.request_eq_ok_iff.mp hroom, rfl⟩
    · rintro ⟨-, hroom, rfl⟩
      exact ⟨(), Memory.request_eq_ok_iff.mpr hroom, rfl⟩
  · simp [h]

/-- A number and its bytes give each other back: in the shortest form, which never ends in a zero and has as
many bytes as the range asks for, and in the form of a full width, which is the shortest one filled up. Bytes
that end in zeros come back without them in the shortest form and as they were in the full one. A number that
is out of range is refused, and one in range has its form where there is room for it. -/
theorem numbers_and_bytes_agree :
    (∀ (d : Datum) (n : Nat), d.index? = some (n : Int) →
      call "int_to_segment" [d] = .ok (.bytes (ofNat n)) ∧
      call "segment_to_int" [.bytes (ofNat n)] = .ok (.int n) ∧
      (ofNat n).length = (n.size + 7) / 8 ∧ (ofNat n).getLast? ≠ some 0 ∧
      ∀ w, (ofNat n).length ≤ w ↔ n < 256 ^ w) ∧
    (∀ (d : Datum) (b : Bytes), d.bytes? = some b → ∃ n : Nat,
      call "segment_to_int" [d] = .ok (.int n) ∧
      call "int_to_segment" [.int n] = .ok (.bytes b.stripZeros) ∧
      call "strip_segment" [d] = .ok (.bytes b.stripZeros)) ∧
    (∀ (width value : Datum) (w n : Nat), width.index? = some (w : Int) → value.integer? = some (n : Int) →
      (256 ^ w ≤ n → call "field_to_bytes" [width, value] = .error (.numberTooWide n width)) ∧
      (n < 256 ^ w → call "field_to_bytes" [width, value] =
        (Memory.request w).map fun _ => .bytes ((ofNat n).padTo w)) ∧
      (w ≤ Memory.available → ((∃ r, call "field_to_bytes" [width, value] = .ok r) ↔ n < 256 ^ w)) ∧
      ∀ r, call "field_to_bytes" [width, value] = .ok r →
        r = .bytes ((ofNat n).padTo w) ∧ ((ofNat n).padTo w).length = w ∧
        call "bytes_to_field" [r] = .ok (.int n)) ∧
    ∀ (d : Datum) (b : Bytes), d.bytes? = some b → ∃ n : Nat,
      call "bytes_to_field" [d] = .ok (.int n) ∧
      (b.length ≤ Memory.available →
        call "field_to_bytes" [.int b.length, .int n] = .ok (.bytes b)) := by
  refine ⟨fun d n hd => ?_, fun d b hd => ?_, fun width value w n hw hn => ?_, fun d b hd => ?_⟩
  · have hback := call_segmentToInt (d := .bytes (ofNat n)) rfl
    rw [toNat_ofNat] at hback
    exact ⟨call_intToSegment hd, hback, length_ofNat n, trimmed_ofNat n, fun w => fits_iff⟩
  · have hagain := call_intToSegment (d := .int (toNat b)) rfl
    rw [ofNat_toNat_eq_stripZeros] at hagain
    exact ⟨toNat b, call_segmentToInt hd, hagain, call_stripSegment hd⟩
  · have heq := call_fieldToBytes hw hn
    refine ⟨fun h => heq.trans (if_neg (Nat.not_lt.mpr h)), fun h => heq.trans (if_pos h), ?_, ?_⟩
    · intro hroom
      simp [call_fieldToBytes_eq_ok hw hn, hroom]
    · intro r hr
      obtain ⟨h, -, rfl⟩ := (call_fieldToBytes_eq_ok hw hn).mp hr
      have hback := call_bytesToField (d := .bytes (ofNatPadded w n)) rfl
      rw [toNat_ofNatPadded] at hback
      exact ⟨rfl, length_ofNatPadded h, hback⟩
  · refine ⟨toNat b, call_bytesToField hd, fun hroom => ?_⟩
    refine (call_fieldToBytes_eq_ok rfl rfl).mpr ⟨toNat_lt b, hroom, ?_⟩
    rw [ofNatPadded_toNat]

end

/-- The first number of two bytes does not fit one; filled up to three it is the number of a string that ends
in a zero. -/
theorem bytes_of_two_hundred_fifty_six :
    let d : Datum := .int 256
    let filled : Datum := .buffer [0, 1, 0]
    d.index? = some ((256 : Nat) : Int) ∧ d.integer? = some ((256 : Nat) : Int) ∧
      filled.bytes? = some [0, 1, 0] ∧ ofNat 256 = [0, 1] ∧
      call "int_to_segment" [d] = .ok (.bytes [0, 1]) ∧ call "segment_to_int" [.bytes [0, 1]] = .ok d ∧
      call "strip_segment" [filled] = .ok (.bytes [0, 1]) ∧
      call "field_to_bytes" [.int 1, d] = .error (.numberTooWide 256 (.int 1)) ∧
      call "field_to_bytes" [.int 3, d] = .ok (.bytes [0, 1, 0]) ∧
      call "bytes_to_field" [.bytes [0, 1, 0]] = .ok d ∧
      ∃ n : Nat, call "bytes_to_field" [filled] = .ok (.int n) ∧
        call "field_to_bytes" [.int 3, .int n] = .ok (.bytes [0, 1, 0]) := by
  intro d filled
  obtain ⟨hshortest, hstripped, hwide, hback⟩ := numbers_and_bytes_agree
  have hbytes : ofNat 256 = [0, 1] := by simp [ofNat]
  have hstrip : Bytes.stripZeros [0, 1, 0] = [0, 1] := rfl
  obtain ⟨hsegment, hnumber, -⟩ := hshortest d 256 rfl
  rw [hbytes] at hsegment hnumber
  obtain ⟨_, -, -, hfilled⟩ := hstripped filled [0, 1, 0] rfl
  rw [hstrip] at hfilled
  have hrefused := (hwide (.int 1) d 1 256 rfl rfl).1 (by decide)
  obtain ⟨-, -, hroom, hform⟩ := hwide (.int 3) d 3 256 rfl rfl
  obtain ⟨r, hr⟩ := (hroom (by decide)).mpr (by decide)
  obtain ⟨rfl, -, hfield⟩ := hform r hr
  rw [hbytes] at hr hfield
  obtain ⟨n, hn, hagain⟩ := hback filled [0, 1, 0] rfl
  exact ⟨rfl, rfl, rfl, hbytes, hsegment, hnumber, hfilled, hrefused, hr, hfield, n, hn,
    hagain (by decide)⟩

end Interface

end AlignedLedger
