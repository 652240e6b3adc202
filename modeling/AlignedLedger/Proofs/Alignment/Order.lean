import AlignedLedger.Proofs.Bytes.Padding
import AlignedLedger.Proofs.Bytes.Digits
import AlignedLedger.Alignment.AlignedValue
import Std.Data.String.ToNat

/-! Aligned values are ordered totally: with the atoms known, the slots can be told apart in the
binary form, and the names tell the atoms. -/

namespace AlignedLedger

theorem leb128_append_inj {m n : Nat} {b c : Bytes} (h : leb128 m ++ b = leb128 n ++ c) :
    m = n ∧ b = c := by
  induction m using Nat.strongRecOn generalizing n with
  | ind m ih =>
    rw [leb128.eq_def m, leb128.eq_def n] at h
    split at h <;> split at h <;> obtain ⟨hx, hr⟩ := List.cons_eq_cons.mp h <;>
      have hn := congrArg UInt8.toNat hx <;>
      rw [toNat_uint8_of_lt (by omega), toNat_uint8_of_lt (by omega)] at hn
    · exact ⟨hn, by simpa using hr⟩
    · omega
    · omega
    · obtain ⟨hd, rfl⟩ := ih (m / 128) (by omega) hr
      exact ⟨by omega, rfl⟩

theorem Bytes.stripZeros_padTo {b : Bytes} (h : b.Trimmed) (n : Nat) :
    (b.padTo n).stripZeros = b := by
  rw [padTo, stripZeros_append_zeros, stripZeros_of_trimmed h]

namespace Slot

theorem ext_of_eq {s t : Slot} (ha : s.atom = t.atom) (hs : s.segment = t.segment) : s = t := by
  cases s
  cases t
  simp_all

/-- With the atom known, a slot's binary form ends where another begins. -/
theorem binary_append_inj {s t : Slot} {b c : Bytes} (ha : s.atom = t.atom)
    (h : s.binary ++ b = t.binary ++ c) : s = t ∧ b = c := by
  have hs := s.holds
  have ht := t.holds
  rw [← ha] at ht
  unfold binary at h
  rw [← ha] at h
  unfold Atom.Holds at hs ht
  cases hw : s.atom.width? with
  | some w =>
    simp only [hw] at h hs ht
    have hl : (s.segment.padTo w).length = (t.segment.padTo w).length := by
      rw [Bytes.length_padTo, Bytes.length_padTo]
      omega
    obtain ⟨hp, rfl⟩ := List.append_inj h hl
    have hh := congrArg Bytes.stripZeros hp
    rw [Bytes.stripZeros_padTo hs.2, Bytes.stripZeros_padTo ht.2] at hh
    exact ⟨ext_of_eq ha hh, rfl⟩
  | none =>
    simp only [hw, List.append_assoc] at h
    obtain ⟨hl, hr⟩ := leb128_append_inj h
    obtain ⟨hh, rfl⟩ := List.append_inj hr hl
    exact ⟨ext_of_eq ha hh, rfl⟩

end Slot

theorem Atom.name_injective : Function.Injective Atom.name := by
  have hb : ∀ n t, Atom.name (.bytes n) = t → t.toList.head? = some 'b' := by
    rintro n _ rfl
    simp [Atom.name]
  intro a b h
  cases a with
  | bytes m =>
    cases b with
    | bytes n =>
      have hr : m.repr = n.repr := by simpa [Atom.name] using h
      rw [Nat.repr_inj.mp hr]
    | field => exact absurd (hb m _ h) (by decide)
    | compress => exact absurd (hb m _ h) (by decide)
  | field =>
    cases b with
    | bytes n => exact absurd (hb n _ h.symm) (by decide)
    | field => rfl
    | compress => exact absurd h (by decide)
  | compress =>
    cases b with
    | bytes n => exact absurd (hb n _ h.symm) (by decide)
    | field => exact absurd h (by decide)
    | compress => rfl

namespace AlignedValue

/-- With the atoms known, the binary form ends where what follows begins. -/
theorem binary_append_inj {v w : AlignedValue} {b c : Bytes} (ha : v.alignment = w.alignment)
    (h : v.binary ++ b = w.binary ++ c) : v = w ∧ b = c := by
  obtain ⟨ss⟩ := v
  obtain ⟨ts⟩ := w
  simp only [alignment, binary, mk.injEq] at ha h ⊢
  induction ss generalizing ts with
  | nil =>
    obtain rfl : ts = [] := by simpa using ha.symm
    exact ⟨rfl, h⟩
  | cons s ss ih =>
    cases ts with
    | nil => simp at ha
    | cons t ts =>
      simp only [List.map_cons, List.cons.injEq, List.flatMap_cons, List.append_assoc] at ha h
      obtain ⟨rfl, hr⟩ := Slot.binary_append_inj ha.1 h
      obtain ⟨rfl, rfl⟩ := ih ts ha.2 hr
      exact ⟨rfl, rfl⟩

/-- The binary form and the atoms tell the value. -/
theorem ext_of_binary {v w : AlignedValue} (ha : v.alignment = w.alignment)
    (hb : v.binary = w.binary) : v = w :=
  (binary_append_inj ha (congrArg (· ++ []) hb)).1

theorem order_eq_compareLex :
    order = compareLex (compareOn binary) (compareOn atomNames) := rfl

instance : Std.TransCmp order := by
  rw [order_eq_compareLex]
  infer_instance

instance : Std.LawfulEqCmp order where
  compare_self := Std.ReflCmp.compare_self
  eq_of_compare := by
    intro v w h
    rw [order, Ordering.then_eq_eq] at h
    have hn := Std.LawfulEqOrd.eq_of_compare h.2
    exact ext_of_binary (Atom.name_injective.list_map hn) (Std.LawfulEqOrd.eq_of_compare h.1)

@[simp] theorem order_self (v : AlignedValue) : v.order v = .eq := Std.ReflCmp.compare_self

end AlignedValue

end AlignedLedger
