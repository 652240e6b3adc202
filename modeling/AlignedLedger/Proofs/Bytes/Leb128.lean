import AlignedLedger.Proofs.Alignment.Order
import AlignedLedger.Proofs.Interface
import Mathlib.Data.Nat.Digits.Defs
import Mathlib.Data.Nat.Size

/-! Groups of seven bits: which bytes are a form of a number, and that the one that is written is the
shortest. -/

namespace AlignedLedger

namespace Leb128

/-- The number in the low seven bits. -/
def group (x : UInt8) : Nat := (x &&& 0x7F).toNat

/-- The top bit says that another byte follows. -/
def Continues (x : UInt8) : Prop := x.toNat.testBit 7 = true

/-- All bytes but the last say that another one follows, and the groups are the digits of the number, lowest
first. -/
structure Spells (b : Bytes) (n : Nat) : Prop where
  marked : ∃ init last, b = init ++ [last] ∧ (∀ x ∈ init, Continues x) ∧ ¬ Continues last
  value : Nat.ofDigits 128 (b.map group) = n

theorem group_eq (x : UInt8) : group x = x.toNat % 128 := by
  rw [group, UInt8.toNat_and]
  exact Nat.and_two_pow_sub_one_eq_mod x.toNat 7

theorem continues_iff {x : UInt8} : Continues x ↔ 128 ≤ x.toNat := by
  have hx := x.toNat_lt
  rw [Continues, Nat.testBit_eq_decide_div_mod_eq, decide_eq_true_iff]
  omega

namespace Spells

variable {b : Bytes} {n : Nat}

theorem last {x : UInt8} (hx : ¬ Continues x) : Spells [x] (group x) :=
  ⟨⟨[], x, rfl, by simp, hx⟩, Nat.ofDigits_singleton⟩

theorem cons {x : UInt8} (hx : Continues x) (h : Spells b n) : Spells (x :: b) (group x + 128 * n) := by
  obtain ⟨⟨init, last, rfl, hinit, hlast⟩, rfl⟩ := h
  refine ⟨⟨x :: init, last, rfl, List.forall_mem_cons.mpr ⟨hx, hinit⟩, hlast⟩, ?_⟩
  rw [List.map_cons, Nat.ofDigits_cons]

theorem length_pos (h : Spells b n) : 0 < b.length := by
  obtain ⟨init, last, rfl, -, -⟩ := h.marked
  simp

theorem lt (h : Spells b n) : n < 128 ^ b.length := by
  have hgroups : ∀ k ∈ b.map group, k < 128 := by
    intro k hk
    obtain ⟨x, -, rfl⟩ := List.mem_map.mp hk
    rw [group_eq]
    omega
  have hlt := Nat.ofDigits_lt_base_pow_length (by decide) hgroups
  rwa [h.value, List.length_map] at hlt

end Spells

end Leb128

open Leb128

theorem length_leb128_pos (n : Nat) : 0 < (leb128 n).length := by
  rw [leb128]
  split <;> simp

theorem leb128_spells (n : Nat) : Spells (leb128 n) n := by
  induction n using leb128.induct with
  | case1 n hn =>
    have hx := toNat_uint8_of_lt (show n < 256 by omega)
    have hlast := Spells.last (x := UInt8.ofNat n) (by rw [continues_iff, hx]; omega)
    rw [group_eq, hx, Nat.mod_eq_of_lt hn] at hlast
    rwa [leb128, if_pos hn]
  | case2 n hn ih =>
    have hx := toNat_uint8_of_lt (show n % 128 + 128 < 256 by omega)
    have hcons := ih.cons (x := UInt8.ofNat (n % 128 + 128)) (by rw [continues_iff, hx]; omega)
    have hvalue : (n % 128 + 128) % 128 + 128 * (n / 128) = n := by omega
    rw [group_eq, hx, hvalue] at hcons
    rwa [leb128, if_neg hn]

/-- There are as many groups as the number has digits. -/
theorem length_leb128_le_iff {n k : Nat} (hk : 0 < k) : (leb128 n).length ≤ k ↔ n < 128 ^ k := by
  induction n using leb128.induct generalizing k with
  | case1 n hn =>
    have hpow : 128 ^ 1 ≤ 128 ^ k := Nat.pow_le_pow_right (by decide) hk
    rw [leb128, if_pos hn, List.length_singleton]
    omega
  | case2 n hn ih =>
    obtain ⟨j, rfl⟩ : ∃ j, k = j + 1 := ⟨k - 1, by omega⟩
    rw [leb128, if_neg hn, List.length_cons, Nat.add_le_add_iff_right, Nat.pow_succ]
    cases j with
    | zero =>
      have hpos := length_leb128_pos (n / 128)
      omega
    | succ j =>
      rw [ih (Nat.succ_pos j)]
      omega

/-- A group has seven bits, and zero takes one group. -/
theorem length_leb128 (n : Nat) : (leb128 n).length = max 1 ((n.size + 6) / 7) := by
  refine eq_of_forall_ge_iff fun k => ?_
  have hbits : (n.size + 6) / 7 ≤ k ↔ n.size ≤ 7 * k := by omega
  rw [max_le_iff, hbits, Nat.size_le, Nat.pow_mul]
  constructor
  · intro h
    have hk := Nat.lt_of_lt_of_le (length_leb128_pos n) h
    exact ⟨hk, (length_leb128_le_iff hk).mp h⟩
  · rintro ⟨hk, h⟩
    exact (length_leb128_le_iff hk).mpr h

theorem Leb128.Spells.length_leb128_le {b : Bytes} {n : Nat} (h : Spells b n) :
    (leb128 n).length ≤ b.length := (length_leb128_le_iff h.length_pos).mpr h.lt

section

variable [Memory]

/-- What is written of a number is a form of it in seven bits a byte, of one byte for every seven bits of the
number and of one byte at least; no form of it has less. And where it ends is told by the bytes themselves,
whatever follows. -/
theorem leb128_minimal_delimited :
    (∀ (d : Datum) (n : Nat), d.index? = some (n : Int) →
      Interface.call "uvarint_encode" [d] = .ok (.bytes (leb128 n))) ∧
    (∀ n : Nat, (leb128 n).length = max 1 ((n.size + 6) / 7) ∧ Spells (leb128 n) n ∧
      ∀ b, Spells b n → (leb128 n).length ≤ b.length) ∧
    ∀ (m n : Nat) (x y : Bytes), leb128 m ++ x = leb128 n ++ y → m = n ∧ x = y := by
  refine ⟨fun d n => Interface.call_encodeLeb128, fun n => ⟨length_leb128 n, leb128_spells n, ?_⟩, ?_⟩
  · exact fun b => Spells.length_leb128_le
  · exact fun m n x y => leb128_append_inj

end

/-- A length in two groups; a third one with nothing in it makes a form that is longer. -/
theorem leb128_of_three_hundred :
    (Datum.int 300).index? = some ((300 : Nat) : Int) ∧
      Interface.call "uvarint_encode" [.int 300] = .ok (.bytes (leb128 300)) ∧
      leb128 300 = [0xAC, 0x02] ∧ (leb128 300).length = max 1 (((300 : Nat).size + 6) / 7) ∧
      Spells [0xAC, 0x82, 0x00] 300 ∧ (leb128 300).length ≤ 3 ∧
      leb128 300 ++ [0xAC] = leb128 (2 * 128 + 44) ++ [0xAC] ∧ 300 = 2 * 128 + 44 := by
  obtain ⟨hcall, hform, hdelimited⟩ := leb128_minimal_delimited
  obtain ⟨hlength, -, hminimal⟩ := hform 300
  have hbytes : leb128 300 = [0xAC, 0x02] := by simp [leb128]
  have hlonger : Spells [0xAC, 0x82, 0x00] 300 :=
    ⟨⟨[0xAC, 0x82], 0x00, rfl, by simp [continues_iff], by simp [continues_iff]⟩, by decide⟩
  exact ⟨rfl, hcall (.int 300) 300 rfl, hbytes, hlength, hlonger, hminimal _ hlonger, rfl,
    (hdelimited 300 (2 * 128 + 44) [0xAC] [0xAC] rfl).1⟩

end AlignedLedger
