import AlignedLedger.Binary
import Mathlib.Data.Rat.Cast.Order

/-! The numbers that binary fractions stand for, which is what decides when two of them count as equal. -/

namespace AlignedLedger.Binary

variable {m n : Bool} {a b : Nat} {d e : Int}

/-- The number that a finite fraction stands for. -/
def value (negative : Bool) (coefficient : Nat) (exponent : Int) : ℚ :=
  signed negative coefficient * 2 ^ exponent

theorem signed_mul (k : Nat) : signed m (a * k) = signed m a * k := by
  cases m <;> simp [signed]

theorem scaled_eq {k : Int} (hk : 0 ≤ k) : (scaled m a k : ℚ) = value m a k := by
  obtain ⟨k, rfl⟩ := Int.eq_ofNat_of_zero_le hk
  rw [scaled, value, Int.toNat_natCast, Nat.shiftLeft_eq, signed_mul]
  push_cast
  rw [zpow_natCast]

/-- On their common power of two, fractions stand for the same number exactly if they do on their own. -/
theorem equal_finite : (finite m a d).equal (finite n b e) = true ↔ value m a d = value n b e := by
  have hd : value m a d = scaled m a (d - min d e) * 2 ^ min d e := by
    rw [scaled_eq (by omega), value, value, mul_assoc, ← zpow_add₀ two_ne_zero, Int.sub_add_cancel]
  have he : value n b e = scaled n b (e - min d e) * 2 ^ min d e := by
    rw [scaled_eq (by omega), value, value, mul_assoc, ← zpow_add₀ two_ne_zero, Int.sub_add_cancel]
  have hpow : (2 : ℚ) ^ min d e ≠ 0 := zpow_ne_zero _ two_ne_zero
  rw [hd, he, mul_left_inj' hpow, Int.cast_inj]
  exact decide_eq_true_iff

theorem signed_natAbs (i : Int) : signed (decide (i < 0)) i.natAbs = i := by
  rw [signed]
  by_cases hi : i < 0
  · rw [if_pos (decide_eq_true hi)]
    omega
  · rw [if_neg (by simpa using hi)]
    omega

theorem value_ofInt (i : Int) : value (decide (i < 0)) i.natAbs 0 = i := by
  rw [value, signed_natAbs, zpow_zero, mul_one]

@[simp] theorem equal_ofInt {i j : Int} : (ofInt i).equal (ofInt j) = true ↔ i = j := by
  rw [ofInt, ofInt, equal_finite, value_ofInt, value_ofInt, Int.cast_inj]

theorem value_eq_zero : value m a d = 0 ↔ a = 0 := by
  have hs : signed m a = 0 ↔ a = 0 := by
    cases m <;> simp [signed]
  have hpow : (2 : ℚ) ^ d ≠ 0 := zpow_ne_zero _ two_ne_zero
  rw [value, mul_eq_zero, or_iff_left hpow, Int.cast_eq_zero, hs]

/-- Numbers that are the same are zero together. -/
theorem isZero_of_equal {x y : Binary} (h : x.equal y = true) : x.isZero = y.isZero := by
  cases x with
  | finite m a d =>
    cases y with
    | finite n b e =>
      have hz : a = 0 ↔ b = 0 := by
        rw [← value_eq_zero (m := m) (d := d), equal_finite.mp h, value_eq_zero]
      simp only [isZero, hz]
    | _ => simp [equal] at h
  | infinite m => cases y <;> simp_all [equal, isZero]
  | undefined => simp [equal] at h

theorem equal_of_equal {x y z : Binary} (hx : x.equal z = true) (hy : y.equal z = true) :
    x.equal y = true := by
  cases x with
  | finite m a d =>
    cases z with
    | finite k c f =>
      cases y with
      | finite n b e => exact equal_finite.mpr ((equal_finite.mp hx).trans (equal_finite.mp hy).symm)
      | _ => simp [equal] at hy
    | _ => simp [equal] at hx
  | infinite m =>
    cases z with
    | infinite k =>
      cases y with
      | infinite n =>
        simp only [equal, decide_eq_true_eq] at hx hy ⊢
        rw [hx, hy]
      | _ => simp [equal] at hy
    | _ => simp [equal] at hx
  | undefined => simp [equal] at hx

/-- Nothing is cut off from a fraction that is a whole number. -/
theorem truncate_of_value {i : Int} (h : value m a d = i) : truncate m a d = i := by
  cases d with
  | ofNat k =>
    have hvalue : signed m (a * 2 ^ k) = i := by
      rw [signed_mul]
      rw [value, Int.ofNat_eq_natCast, zpow_natCast] at h
      exact_mod_cast h
    have hright : (-Int.ofNat k).toNat = 0 := by
      rw [Int.ofNat_eq_natCast]
      omega
    rw [truncate, hright, Nat.shiftRight_zero, Int.ofNat_eq_natCast, Int.toNat_natCast, Nat.shiftLeft_eq,
      hvalue]
  | negSucc k =>
    have hpos : 0 < 2 ^ (k + 1) := Nat.two_pow_pos _
    have hvalue : signed m a = i * (2 ^ (k + 1) : Nat) := by
      have hpow : (2 : ℚ) ^ (k + 1) ≠ 0 := pow_ne_zero _ two_ne_zero
      rw [value, zpow_negSucc, ← div_eq_mul_inv, div_eq_iff hpow] at h
      exact_mod_cast h
    have habs : a = i.natAbs * 2 ^ (k + 1) := by
      have hh := congrArg Int.natAbs hvalue
      rw [Int.natAbs_mul, Int.natAbs_natCast] at hh
      rw [← hh]
      cases m <;> simp [signed]
    rw [truncate]
    change signed m (a <<< 0 >>> (k + 1)) = i
    rw [Nat.shiftLeft_zero, Nat.shiftRight_eq_div_pow, habs, Nat.mul_div_cancel _ hpos]
    have hsigned : signed m i.natAbs * (2 ^ (k + 1) : Nat) = i * (2 ^ (k + 1) : Nat) := by
      rw [← signed_mul, ← habs, hvalue]
    exact Int.eq_of_mul_eq_mul_right (by omega) hsigned

end AlignedLedger.Binary
