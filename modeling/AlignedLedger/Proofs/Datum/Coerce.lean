import AlignedLedger.Datum.Coerce
import AlignedLedger.Proofs.Alignment.Segments
import AlignedLedger.Proofs.Fault

/-! What the readings of loosely typed data come to, told by the data alone, and that nothing is reported
of what cannot be read. -/

namespace AlignedLedger

theorem Memory.not_isReported_of_request [Memory] {n : Nat} {e : Fault} (h : request n = .error e) :
    ¬ e.IsReported := by
  rcases kind_of_request h with hk | hk
  · exact Fault.not_isReported_of_kind (by rw [hk]; rfl)
  · exact Fault.not_isReported_of_kind (by rw [hk]; rfl)

theorem Memory.exists_request [Memory] {n : Nat} : (∃ u, request n = .ok u) ↔ n ≤ available := by
  constructor
  · rintro ⟨⟨⟩, h⟩
    exact request_eq_ok_iff.mp h
  · intro h
    exact ⟨(), request_eq_ok_iff.mpr h⟩

/-- Room that is missing is the only thing that can go wrong. -/
theorem Memory.unreported_request [Memory] {n : Nat} : Unreported (request n) ↔ available < n := by
  rw [unreported_iff_of_forall fun _ => not_isReported_of_request, exists_request, Nat.not_le]

namespace Datum

variable {d : Datum} {e : Fault}

/-- The datum is read as these bytes: as what it holds, as a number of zeros that there is room for, or as
the numbers that are met when going through it. -/
inductive ReadsAsBytes [Memory] : Datum → Bytes → Prop
  | content {d : Datum} {b : Bytes} (h : d.bytes? = some b) : ReadsAsBytes d b
  | zeros {d : Datum} {n : Nat} (hn : d.index? = some (n : Int)) (h : n ≤ Memory.available) :
      ReadsAsBytes d (Bytes.zeros n)
  | numbers {d : Datum} {xs : List Datum} {b : Bytes} (ht : d.codes? = none) (hx : d.elements? = some xs)
      (h : List.Forall₂ (fun x (c : UInt8) => x.index? = some (c.toNat : Int)) xs b) : ReadsAsBytes d b

/-- The datum is read as this number: as the number that it is, without what follows the point, or as
the decimal number that its text spells. -/
inductive ReadsAsInt : Datum → Int → Prop
  | number {d : Datum} {i : Int} (h : d.index? = some i) : ReadsAsInt d i
  | fraction (m c e) : ReadsAsInt (.float (.finite m c e)) (Binary.truncate m c e)
  | numeral {s : String} {i : Int} (h : Text.integer? s = some i) : ReadsAsInt (.text s) i
  | ascii {d : Datum} {b : Bytes} {i : Int} (hb : d.bytes? = some b)
      (h : Text.integer? (toInt.asciiText b) = some i) : ReadsAsInt d i

/-- A byte string, a number of zeros that there is room for, or a collection of numbers below 256. -/
inductive Bytelike [Memory] : Datum → Prop
  | content {d : Datum} {b : Bytes} (h : d.bytes? = some b) : Bytelike d
  | zeros {d : Datum} {i : Int} (hi : d.index? = some i) (h₀ : 0 ≤ i) (h : i ≤ Memory.available) : Bytelike d
  | numbers {d : Datum} {xs : List Datum} (ht : d.codes? = none) (hx : d.elements? = some xs)
      (h : ∀ x ∈ xs, ∃ i, x.index? = some i ∧ 0 ≤ i ∧ i < 256) : Bytelike d

theorem toByte_eq_ok {c : UInt8} : d.toByte = .ok c ↔ d.index? = some (c.toNat : Int) := by
  unfold toByte
  cases d.index? with
  | none => simp
  | some i =>
    have hc := c.toNat_lt
    by_cases h : 0 ≤ i ∧ i < 256
    · have hlt : i.toNat < 256 := by omega
      have hi : (UInt8.ofNat i.toNat).toNat = i.toNat := UInt8.toNat_ofNat_of_lt hlt
      simp only [if_pos h, Except.ok.injEq, Option.some.injEq, ← UInt8.toNat_inj, hi]
      omega
    · simp only [if_neg h, reduceCtorEq, Option.some.injEq, false_iff]
      omega

theorem zerosOf_eq_ok [Memory] {i : Int} {b : Bytes} :
    toBytes.zerosOf i = .ok b ↔ ∃ n : Nat, i = n ∧ n ≤ Memory.available ∧ b = Bytes.zeros n := by
  cases i with
  | ofNat n =>
    have hneg : ¬ (Int.ofNat n < 0) := by simp
    simp only [toBytes.zerosOf, if_neg hneg, pure_eq_ok, bind_eq_ok, Except.ok.injEq]
    constructor
    · rintro ⟨_, hr, rfl⟩
      exact ⟨n, rfl, Memory.request_eq_ok_iff.mp hr, rfl⟩
    · rintro ⟨m, hm, hle, rfl⟩
      obtain rfl := Int.ofNat.inj hm
      exact ⟨(), Memory.request_eq_ok_iff.mpr hle, rfl⟩
  | negSucc n => simp [toBytes.zerosOf]

theorem readsAsBytes_iff_of_index [Memory] {i : Int} {b : Bytes} (hi : d.index? = some i) :
    ReadsAsBytes d b ↔ ∃ n : Nat, i = n ∧ n ≤ Memory.available ∧ b = Bytes.zeros n := by
  constructor
  · intro h
    cases h with
    | content h => cases d <;> simp [bytes?, index?, integer?] at h hi
    | zeros hn h =>
      cases hi.symm.trans hn
      exact ⟨_, rfl, h, rfl⟩
    | numbers ht hx h => cases d <;> simp [elements?, index?, integer?] at hx hi
  · rintro ⟨n, rfl, h, rfl⟩
    exact .zeros hi h

theorem readsAsBytes_iff_of_elements [Memory] {xs : List Datum} {b : Bytes} (hb : d.bytes? = none)
    (hi : d.index? = none) (ht : d.codes? = none) (hx : d.elements? = some xs) :
    ReadsAsBytes d b ↔ xs.mapM toByte = .ok b := by
  simp only [mapM_eq_ok, toByte_eq_ok]
  constructor
  · intro h
    cases h with
    | content h => simp [hb] at h
    | zeros hj => simp [hi] at hj
    | numbers _ hy h =>
      cases hx.symm.trans hy
      exact h
  · exact .numbers ht hx

theorem readsAsBytes_iff_of_bytes [Memory] {b c : Bytes} (hb : d.bytes? = some b) :
    ReadsAsBytes d c ↔ b = c := by
  constructor
  · intro h
    cases h with
    | content h => exact Option.some.inj (hb.symm.trans h)
    | zeros hj => cases d <;> simp [bytes?, index?, integer?] at hb hj
    | numbers _ hx h =>
      have hxs : d.elements? = some (b.map fun x => int x.toNat) := by
        cases d <;> simp [bytes?] at hb <;> simp [elements?, hb]
      cases hx.symm.trans hxs
      rw [List.forall₂_map_left_iff] at h
      rw [← List.forall₂_eq_eq_eq]
      refine h.imp fun x y hxy => UInt8.toNat_inj.mp ?_
      exact Int.ofNat.inj (Option.some.inj hxy)
  · rintro rfl
    exact .content hb

theorem toBytes_eq_ok [Memory] {b : Bytes} : d.toBytes = .ok b ↔ ReadsAsBytes d b := by
  cases d with
  | bytes c =>
    rw [readsAsBytes_iff_of_bytes (b := c) rfl]
    exact ⟨Except.ok.inj, congrArg Except.ok⟩
  | buffer c =>
    rw [readsAsBytes_iff_of_bytes (b := c) rfl]
    exact ⟨Except.ok.inj, congrArg Except.ok⟩
  | bool c => exact zerosOf_eq_ok.trans (readsAsBytes_iff_of_index (i := c.toNat) rfl).symm
  | int i => exact zerosOf_eq_ok.trans (readsAsBytes_iff_of_index rfl).symm
  | member cls name i => exact zerosOf_eq_ok.trans (readsAsBytes_iff_of_index rfl).symm
  | list xs => exact (readsAsBytes_iff_of_elements rfl rfl rfl rfl).symm
  | tuple xs => exact (readsAsBytes_iff_of_elements rfl rfl rfl rfl).symm
  | dict es => exact (readsAsBytes_iff_of_elements rfl rfl rfl rfl).symm
  | text | broken =>
    constructor
    · rintro ⟨⟩
    · rintro (h | ⟨h, -⟩ | ⟨h, -, -⟩)
      · simp [bytes?] at h
      · simp [index?, integer?] at h
      · simp [codes?] at h
  | _ =>
    constructor
    · rintro ⟨⟩
    · rintro (h | ⟨h, -⟩ | ⟨-, h, -⟩)
      · simp [bytes?] at h
      · simp [index?, integer?] at h
      · simp [elements?] at h

theorem bytelike_iff [Memory] : Bytelike d ↔ ∃ b, ReadsAsBytes d b := by
  constructor
  · intro h
    cases h with
    | content h => exact ⟨_, .content h⟩
    | zeros hi h₀ h =>
      obtain ⟨n, rfl⟩ := Int.eq_ofNat_of_zero_le h₀
      exact ⟨_, .zeros hi (Int.ofNat_le.mp h)⟩
    | @numbers xs ht hx h =>
      have hbytes : ∀ x ∈ xs, ∃ c, x.toByte = .ok c := by
        intro x hmem
        obtain ⟨i, hi, hr⟩ := h x hmem
        exact ⟨_, by rw [toByte, hi]; exact if_pos hr⟩
      obtain ⟨b, hb⟩ := exists_mapM_ok.mpr hbytes
      simp only [mapM_eq_ok, toByte_eq_ok] at hb
      exact ⟨b, .numbers ht hx hb⟩
  · rintro ⟨b, h⟩
    cases h with
    | content h => exact .content h
    | zeros hn h => exact .zeros hn (Int.natCast_nonneg _) (Int.ofNat_le.mpr h)
    | numbers ht hx h =>
      simp only [← toByte_eq_ok, ← mapM_eq_ok] at h
      refine .numbers ht hx fun x hmem => ?_
      obtain ⟨c, hc⟩ := exists_mapM_ok.mp ⟨b, h⟩ x hmem
      exact ⟨_, toByte_eq_ok.mp hc, Int.natCast_nonneg _, Int.ofNat_lt.mpr c.toNat_lt⟩

theorem exists_toBytes [Memory] : (∃ b, d.toBytes = .ok b) ↔ Bytelike d := by
  simp only [toBytes_eq_ok, bytelike_iff]

theorem toInt_eq_ok {i : Int} : d.toInt = .ok i ↔ ReadsAsInt d i := by
  have htext : ∀ s, toInt.ofText s = .ok i ↔ Text.integer? s = some i := by
    intro s
    unfold toInt.ofText
    cases Text.integer? s <;> simp
  constructor
  · intro h
    cases d with
    | text s => exact .numeral ((htext s).mp h)
    | bytes b => exact .ascii rfl ((htext _).mp h)
    | buffer b => exact .ascii rfl ((htext _).mp h)
    | float x =>
      cases x with
      | finite m c e =>
        obtain rfl := Except.ok.inj h
        exact .fraction m c e
      | _ => cases h
    | bool b => exact .number (congrArg some (Except.ok.inj h))
    | int j => exact .number (congrArg some (Except.ok.inj h))
    | member cls name j => exact .number (congrArg some (Except.ok.inj h))
    | _ => cases h
  · intro h
    cases h with
    | number h =>
      cases d with
      | bool | int | member => exact congrArg Except.ok (Option.some.inj h)
      | _ => cases h
    | fraction => rfl
    | numeral h => exact (htext _).mpr h
    | ascii hb h =>
      cases d with
      | bytes | buffer =>
        obtain rfl := Option.some.inj hb
        exact (htext _).mpr h
      | _ => cases hb

theorem not_isReported_of_toByte (h : d.toByte = .error e) : ¬ e.IsReported := by
  unfold toByte at h
  split at h
  · split at h
    · simp at h
    · cases h
      exact Fault.not_isReported_of_kind rfl
  · cases h
    exact Fault.not_isReported_of_kind rfl

theorem not_isReported_of_toBytes [Memory] (h : d.toBytes = .error e) : ¬ e.IsReported := by
  have hzeros : ∀ i, toBytes.zerosOf i = .error e → ¬ e.IsReported := by
    intro i h
    unfold toBytes.zerosOf at h
    split at h
    · split at h
      · cases h
        exact Fault.not_isReported_of_kind rfl
      · cases h
        exact Fault.not_isReported_of_kind rfl
    · rcases bind_eq_error.mp h with h | ⟨_, -, h⟩
      · exact Memory.not_isReported_of_request h
      · simp at h
  unfold toBytes at h
  split at h
  · simp at h
  · simp at h
  · cases h
    exact Fault.not_isReported_of_kind rfl
  · cases h
    exact Fault.not_isReported_of_kind rfl
  · split at h
    · exact hzeros _ h
    · obtain ⟨x, -, hx⟩ := exists_of_mapM_error h
      exact not_isReported_of_toByte hx
    · cases h
      exact Fault.not_isReported_of_kind rfl

theorem not_isReported_of_toInt (h : d.toInt = .error e) : ¬ e.IsReported := by
  have htext : ∀ s, toInt.ofText s = .error e → ¬ e.IsReported := by
    intro s h
    unfold toInt.ofText at h
    split at h
    · simp at h
    · cases h
      exact Fault.not_isReported_of_kind rfl
  unfold toInt at h
  split at h
  · exact htext _ h
  · cases h
    exact Fault.not_isReported_of_kind rfl
  · exact htext _ h
  · exact htext _ h
  · simp at h
  · cases h
    exact Fault.not_isReported_of_kind rfl
  · cases h
    exact Fault.not_isReported_of_kind rfl
  · split at h
    · simp at h
    · cases h
      exact Fault.not_isReported_of_kind rfl

end Datum

end AlignedLedger
