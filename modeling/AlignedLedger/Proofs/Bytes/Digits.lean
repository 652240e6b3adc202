import AlignedLedger.Bytes.BigEndian
import AlignedLedger.Bytes.LittleEndian
import AlignedLedger.Bytes.Utf8
import Mathlib.Algebra.Group.Nat.Defs

/-! Numbers and text come back from their bytes. -/

namespace AlignedLedger

theorem toNat_uint8_of_lt {n : Nat} (h : n < 256) : (UInt8.ofNat n).toNat = n := by
  simp [Nat.mod_eq_of_lt h]

namespace LittleEndian

@[simp] theorem toNat_ofNat (n : Nat) : toNat (ofNat n) = n := by
  induction n using Nat.strongRecOn with
  | ind n ih =>
    rw [ofNat]
    split
    · simp [toNat, *]
    · rw [toNat, ih (n / 256) (by omega), toNat_uint8_of_lt (by omega)]
      omega

theorem trimmed_ofNat (n : Nat) : (ofNat n).Trimmed := by
  induction n using Nat.strongRecOn with
  | ind n ih =>
    rw [ofNat]
    split
    · simp [Bytes.Trimmed]
    · by_cases hn : n / 256 = 0
      · have hb : UInt8.ofNat (n % 256) ≠ 0 := by
          intro h
          have hh := congrArg UInt8.toNat h
          rw [toNat_uint8_of_lt (by omega)] at hh
          simp at hh
          omega
        rw [hn, ofNat, if_pos rfl]
        simpa [Bytes.Trimmed] using hb
      · have hne : ofNat (n / 256) ≠ [] := by
          rw [ofNat, if_neg hn]
          simp
        have hh := ih (n / 256) (by omega)
        rwa [Bytes.Trimmed, List.getLast?_cons_of_ne_nil hne]

theorem fits_iff {width n : Nat} : Fits width n ↔ n < 256 ^ width := by
  unfold Fits
  induction width generalizing n with
  | zero =>
    rw [ofNat]
    split <;> simp <;> omega
  | succ width ih =>
    rw [ofNat]
    split
    · next hn =>
      rw [hn]
      exact ⟨fun _ => Nat.pow_pos (by decide), fun _ => Nat.zero_le _⟩
    · rw [List.length_cons, Nat.add_le_add_iff_right, ih, Nat.pow_succ]
      omega

theorem toNat_lt (b : Bytes) : toNat b < 256 ^ b.length := by
  induction b with
  | nil => simp [toNat]
  | cons x b ih =>
    have hx := x.toNat_lt
    rw [toNat, List.length_cons, Nat.pow_succ]
    omega

theorem ofNat_toNat {b : Bytes} (h : b.Trimmed) : ofNat (toNat b) = b := by
  induction b with
  | nil => rw [toNat, ofNat, if_pos rfl]
  | cons x b ih =>
    have htail : Bytes.Trimmed b := by
      cases b with
      | nil => decide
      | cons y b => exact h
    have hx := x.toNat_lt
    have hne : x.toNat + 256 * toNat b ≠ 0 := by
      intro hzero
      have hx0 : x = 0 := UInt8.toNat_inj.mp (by simpa using (by omega : x.toNat = 0))
      have hb : b = [] := by
        rw [← ih htail, show toNat b = 0 by omega, ofNat, if_pos rfl]
      subst hx0 hb
      exact h rfl
    have hmod : (x.toNat + 256 * toNat b) % 256 = x.toNat := by omega
    have hdiv : (x.toNat + 256 * toNat b) / 256 = toNat b := by omega
    rw [toNat, ofNat, if_neg hne, hmod, hdiv, ih htail, UInt8.ofNat_toNat]

theorem Fits.mono {width m n : Nat} (h : Fits width n) (hm : m ≤ n) : Fits width m :=
  fits_iff.mpr (Nat.lt_of_le_of_lt hm (fits_iff.mp h))

end LittleEndian

namespace BigEndian

theorem toNat_append_byte (b : Bytes) (x : UInt8) : toNat (b ++ [x]) = 256 * toNat b + x.toNat := by
  simp [toNat]

@[simp] theorem toNat_ofNat (n : Nat) : toNat (ofNat n) = n := by
  induction n using Nat.strongRecOn with
  | ind n ih =>
    rw [ofNat]
    split
    · simp [toNat, *]
    · rw [toNat_append_byte, ih (n / 256) (by omega), toNat_uint8_of_lt (by omega)]
      omega

@[simp] theorem length_ofNatFixed (width n : Nat) : (ofNatFixed width n).length = width := by
  induction width generalizing n with
  | zero => rfl
  | succ width ih => simp [ofNatFixed, ih]

theorem toNat_ofNatFixed {width n : Nat} (h : n < 256 ^ width) : toNat (ofNatFixed width n) = n := by
  induction width generalizing n with
  | zero =>
    have hn : n = 0 := by simpa using h
    simp [ofNatFixed, toNat, hn]
  | succ width ih =>
    rw [Nat.pow_succ] at h
    rw [ofNatFixed, toNat_append_byte, ih (by omega), toNat_uint8_of_lt (by omega)]
    omega

end BigEndian

namespace Utf8

@[simp] theorem decode?_encode (s : String) : decode? (encode s) = some s := by
  simp [decode?, encode, String.fromUTF8?, s.isValidUTF8]
  rfl

theorem encode_of_decode? {b : Bytes} {s : String} (h : decode? b = some s) : encode s = b := by
  unfold decode? String.fromUTF8? at h
  split at h
  · cases h
    simp [encode]
    rfl
  · cases h

end Utf8

end AlignedLedger
