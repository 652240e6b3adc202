import AlignedLedger.Bytes
import Mathlib.Data.List.DropRight

/-! Dropping the zeros at the end of a byte string and filling up with them again. -/

namespace AlignedLedger.Bytes

theorem stripZeros_eq_rdropWhile (b : Bytes) : b.stripZeros = b.rdropWhile (· == 0) := rfl

theorem trimmed_stripZeros (b : Bytes) : b.stripZeros.Trimmed := by
  intro h
  rw [stripZeros_eq_rdropWhile] at h
  have hne : b.rdropWhile (· == 0) ≠ [] := by
    intro he
    simp [he] at h
  have hl := List.rdropWhile_last_not (· == (0 : UInt8)) b hne
  rw [List.getLast?_eq_some_getLast hne, Option.some.injEq] at h
  simp [h] at hl

theorem stripZeros_of_trimmed {b : Bytes} (h : b.Trimmed) : b.stripZeros = b := by
  rw [stripZeros_eq_rdropWhile, List.rdropWhile_eq_self_iff]
  intro hne hz
  apply h
  rw [List.getLast?_eq_some_getLast hne, beq_iff_eq.mp hz]

@[simp] theorem stripZeros_append_zeros (b : Bytes) (n : Nat) :
    (b ++ zeros n).stripZeros = b.stripZeros := by
  induction n with
  | zero => simp [zeros]
  | succ n ih =>
    rw [zeros, List.replicate_succ', ← List.append_assoc, stripZeros_eq_rdropWhile,
      List.rdropWhile_concat_pos _ _ _ (by simp)]
    exact ih

theorem length_stripZeros_le (b : Bytes) : b.stripZeros.length ≤ b.length :=
  (List.rdropWhile_prefix _ b).length_le

/-- What is dropped is as many zeros as there are bytes missing afterwards. -/
theorem stripZeros_append_missing (b : Bytes) :
    b.stripZeros ++ zeros (b.length - b.stripZeros.length) = b := by
  induction b using List.reverseRecOn with
  | nil => rfl
  | append_singleton b x ih =>
    by_cases hx : x = 0
    · subst hx
      have hs : stripZeros (b ++ [0]) = stripZeros b := stripZeros_append_zeros b 1
      rw [hs, List.length_append, List.length_singleton, Nat.succ_sub (length_stripZeros_le b), zeros,
        List.replicate_succ', ← List.append_assoc]
      exact congrArg (· ++ [0]) ih
    · have hs : stripZeros (b ++ [x]) = b ++ [x] :=
        List.rdropWhile_concat_neg (· == 0) b x (by simpa using hx)
      simp [hs, zeros]

theorem padTo_stripZeros {b : Bytes} {n : Nat} (h : b.length = n) : b.stripZeros.padTo n = b := by
  subst h
  exact stripZeros_append_missing b

end AlignedLedger.Bytes
