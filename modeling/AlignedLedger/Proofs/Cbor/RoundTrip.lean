import AlignedLedger.Cbor.Reader
import AlignedLedger.Cbor.Writer
import AlignedLedger.Proofs.Bytes.Digits

/-! Every item is read back from its canonical form, whatever bytes follow it, as long as the form has
no more bytes than the heads can count. -/

namespace AlignedLedger.Cbor

attribute [local simp] item?

/-- Induction over items, where arrays and maps have the claim for all that stands in them. -/
@[elab_as_elim, induction_eliminator]
theorem Item.induct {motive : Item → Prop} (int : ∀ i, motive (.int i)) (bytes : ∀ b, motive (.bytes b))
    (text : ∀ s, motive (.text s)) (array : ∀ items, (∀ x ∈ items, motive x) → motive (.array items))
    (map : ∀ entries, (∀ e ∈ entries, motive e.1 ∧ motive e.2) → motive (.map entries))
    (bool : ∀ b, motive (.bool b)) (null : motive .null) (x : Item) : motive x :=
  match x with
  | .int i => int i
  | .bytes b => bytes b
  | .text s => text s
  | .array xs => array xs fun x _ => induct int bytes text array map bool null x
  | .map es => map es fun e _ => ⟨induct int bytes text array map bool null e.1,
      induct int bytes text array map bool null e.2⟩
  | .bool b => bool b
  | .null => null
termination_by x
decreasing_by
  · next hx =>
    have h := List.sizeOf_lt_of_mem hx
    simp only [Item.array.sizeOf_spec]
    omega
  all_goals
    next he =>
      have h := List.sizeOf_lt_of_mem he
      cases e
      simp only [Prod.mk.sizeOf_spec, Item.map.sizeOf_spec] at h ⊢
      omega

theorem takeBytes?_append (b rest : Bytes) : takeBytes? b.length (b ++ rest) = some (b, rest) := by
  simp [takeBytes?]

theorem takeBytes?_fixed (width n : Nat) (rest : Bytes) :
    takeBytes? width (BigEndian.ofNatFixed width n ++ rest) =
      some (BigEndian.ofNatFixed width n, rest) := by
  have h := takeBytes?_append (BigEndian.ofNatFixed width n) rest
  rwa [BigEndian.length_ofNatFixed] at h

/-- The first byte of a head holds its major type and five bits of its argument. -/
theorem head?_cons {major low : Nat} (hm : major < 8) (hl : low < 32) (b : Bytes) :
    head? (UInt8.ofNat (32 * major + low) :: b) =
      (argument? low b).map fun p => (⟨major, p.1⟩, p.2) := by
  have hmod : (32 * major + low) % 32 = low := by omega
  have hdiv : (32 * major + low) / 32 = major := by omega
  rw [head?, toNat_uint8_of_lt (by omega), hmod, hdiv]

theorem head?_head {major n : Nat} (hm : major < 8) (hn : n < 2 ^ 64) (rest : Bytes) :
    head? (head major n ++ rest) = some (⟨major, .definite n⟩, rest) := by
  unfold head
  split
  · next h =>
    rw [List.singleton_append, head?_cons hm (by omega)]
    simp [argument?, h]
  all_goals
    repeat' split
    all_goals
      rw [List.cons_append, head?_cons hm (by omega)]
      simp only [argument?, Nat.reduceLT, Nat.reduceEqDiff, if_true, if_false, takeBytes?_fixed,
        Option.map_some]
      rw [BigEndian.toNat_ofNatFixed (by omega)]

theorem length_head_pos (major n : Nat) : 0 < (head major n).length := by
  unfold head
  repeat' split
  all_goals simp

theorem simple?_cons {b : UInt8} (h : b.toNat < 224) (rest : Bytes) : simple? (b :: rest) = none := by
  unfold simple?
  split
  all_goals simp_all

/-- No head but those of the last major type is read as a truth value or null. -/
theorem simple?_head {major n : Nat} (hm : major < 7) (rest : Bytes) :
    simple? (head major n ++ rest) = none := by
  unfold head
  repeat' split
  all_goals exact simple?_cons (by rw [toNat_uint8_of_lt (by omega)]; omega) _

section Majors

variable {fuel n : Nat} {b rest : Bytes}

theorem item?_head_zero (hn : n < 2 ^ 64) :
    item? (fuel + 1) (head 0 n ++ rest) = some (.int n, rest) := by
  rw [item?, simple?_head (by omega), head?_head (by omega) hn]
  rfl

theorem item?_head_one (hn : n < 2 ^ 64) :
    item? (fuel + 1) (head 1 n ++ rest) = some (.int (-1 - (n : Int)), rest) := by
  rw [item?, simple?_head (by omega), head?_head (by omega) hn]
  rfl

theorem content?_append (major : Nat) (b rest : Bytes) :
    content? major (.definite b.length) (b ++ rest) = some ([b], rest) := by
  rw [content?, takeBytes?_append]
  rfl

theorem item?_encodeBytes (hb : b.length < 2 ^ 64) :
    item? (fuel + 1) (encodeBytes 2 b ++ rest) = some (.bytes b, rest) := by
  rw [encodeBytes, List.append_assoc, item?, simple?_head (by omega), head?_head (by omega) hb]
  simp [content?_append]

theorem item?_encodeText {s : String} (hs : (Utf8.encode s).length < 2 ^ 64) :
    item? (fuel + 1) (encodeBytes 3 (Utf8.encode s) ++ rest) = some (.text s, rest) := by
  rw [encodeBytes, List.append_assoc, item?, simple?_head (by omega), head?_head (by omega) hs]
  simp [content?_append, String.join]

theorem item?_head_four (hn : n < 2 ^ 64) :
    item? (fuel + 1) (head 4 n ++ rest) = (items? fuel n rest).map fun p => (.array p.1, p.2) := by
  rw [item?, simple?_head (by omega), head?_head (by omega) hn]
  cases h : items? fuel n rest <;> simp [h]

theorem item?_head_five (hn : n < 2 ^ 64) :
    item? (fuel + 1) (head 5 n ++ rest) = (entries? fuel n rest).map fun p => (.map p.1, p.2) := by
  rw [item?, simple?_head (by omega), head?_head (by omega) hn]
  cases h : entries? fuel n rest <;> simp [h]

theorem item?_bignum {tag : Nat} (ht : tag < 2 ^ 64) (hb : b.length < 2 ^ 64) :
    item? (fuel + 2) (head 6 tag ++ encodeBytes 2 b ++ rest) =
      (tagged? (.definite tag) (.bytes b)).map fun x => (x, rest) := by
  rw [List.append_assoc, item?, simple?_head (by omega), head?_head (by omega) ht]
  simp only [item?_encodeBytes hb, Option.bind_eq_bind, Option.bind_some]
  cases tagged? (.definite tag) (.bytes b) <;> rfl

end Majors

theorem item?_encodeInt {i : Int} (hi : (encodeInt i).length < 2 ^ 64) (fuel : Nat) (rest : Bytes) :
    item? (fuel + 2) (encodeInt i ++ rest) = some (.int i, rest) := by
  cases i with
  | ofNat n =>
    simp only [encodeInt] at hi ⊢
    split
    · next hn => exact item?_head_zero hn
    · next hn =>
      rw [if_neg hn, encodeBytes] at hi
      simp only [List.length_append] at hi
      rw [item?_bignum (by omega) (by omega), tagged?, BigEndian.toNat_ofNat]
      rfl
  | negSucc n =>
    simp only [encodeInt] at hi ⊢
    split
    · next hn =>
      rw [item?_head_one hn, Int.negSucc_eq]
      congr 3
      omega
    · next hn =>
      rw [if_neg hn, encodeBytes] at hi
      simp only [List.length_append] at hi
      rw [item?_bignum (by omega) (by omega), tagged?, BigEndian.toNat_ofNat, Option.map_some,
        Int.negSucc_eq]
      congr 3
      omega

theorem length_encode_pos (x : Item) : 0 < (encode x).length := by
  have hh : ∀ major n (b : Bytes), 0 < (head major n ++ b).length := by
    intro major n b
    rw [List.length_append]
    exact Nat.add_pos_left (length_head_pos major n) _
  cases x with
  | int i =>
    cases i <;> simp only [encode, encodeInt] <;> split <;>
      first | exact length_head_pos _ _ | exact hh _ _ _
  | bool b => exact length_head_pos _ _
  | null => exact length_head_pos _ _
  | _ => exact hh _ _ _

theorem length_le_encodeList (xs : List Item) : xs.length ≤ (encodeList xs).length := by
  induction xs with
  | nil => simp
  | cons x xs ih =>
    have h := length_encode_pos x
    simp only [encodeList, List.length_cons, List.length_append]
    omega

theorem length_le_encodeEntries (es : List (Item × Item)) :
    es.length ≤ (encodeEntries es).length := by
  induction es with
  | nil => simp
  | cons e es ih =>
    have h := length_encode_pos e.1
    simp only [encodeEntries, List.length_cons, List.length_append]
    omega

/-- The reader gives the item back and leaves what follows it, given two steps for each byte. -/
def ReadsBack (x : Item) : Prop :=
  ∀ fuel rest, (encode x).length < 2 ^ 64 → 2 * (encode x).length ≤ fuel →
    item? fuel (encode x ++ rest) = some (x, rest)

/-- A form is never empty, so there is fuel for the first step. -/
theorem ReadsBack.of_succ {x : Item}
    (h : ∀ fuel rest, (encode x).length < 2 ^ 64 → 2 * (encode x).length ≤ fuel + 1 →
      item? (fuel + 1) (encode x ++ rest) = some (x, rest)) : ReadsBack x := by
  intro fuel rest hl hf
  have hp := length_encode_pos x
  obtain ⟨fuel, rfl⟩ : ∃ k, fuel = k + 1 := ⟨fuel - 1, by omega⟩
  exact h fuel rest hl hf

theorem items?_encodeList {xs : List Item} (hx : ∀ x ∈ xs, ReadsBack x) {fuel : Nat} (rest : Bytes)
    (hl : (encodeList xs).length < 2 ^ 64) (hf : 2 * (encodeList xs).length + 1 ≤ fuel) :
    items? fuel xs.length (encodeList xs ++ rest) = some (xs, rest) := by
  induction xs generalizing fuel with
  | nil => cases fuel <;> rfl
  | cons x xs ih =>
    have hp := length_encode_pos x
    simp only [encodeList, List.length_append] at hl hf
    obtain ⟨fuel, rfl⟩ : ∃ k, fuel = k + 1 := ⟨fuel - 1, by omega⟩
    have hh := hx x (by simp) fuel (encodeList xs ++ rest) (by omega) (by omega)
    have ht : items? fuel xs.length (encodeList xs ++ rest) = some (xs, rest) :=
      ih (fun y hy => hx y (List.mem_cons_of_mem _ hy)) (by omega) (by omega)
    simp [encodeList, items?, hh, ht]

theorem entries?_encodeEntries {es : List (Item × Item)}
    (he : ∀ e ∈ es, ReadsBack e.1 ∧ ReadsBack e.2) {fuel : Nat} (rest : Bytes)
    (hl : (encodeEntries es).length < 2 ^ 64) (hf : 2 * (encodeEntries es).length + 1 ≤ fuel) :
    entries? fuel es.length (encodeEntries es ++ rest) = some (es, rest) := by
  induction es generalizing fuel with
  | nil => cases fuel <;> rfl
  | cons e es ih =>
    have hk := length_encode_pos e.1
    have hv := length_encode_pos e.2
    simp only [encodeEntries, List.length_append] at hl hf
    obtain ⟨fuel, rfl⟩ : ∃ k, fuel = k + 1 := ⟨fuel - 1, by omega⟩
    have hh := (he e (by simp)).1 fuel (encode e.2 ++ (encodeEntries es ++ rest)) (by omega) (by omega)
    have hm := (he e (by simp)).2 fuel (encodeEntries es ++ rest) (by omega) (by omega)
    have ht : entries? fuel es.length (encodeEntries es ++ rest) = some (es, rest) :=
      ih (fun f hf => he f (List.mem_cons_of_mem _ hf)) (by omega) (by omega)
    simp [encodeEntries, entries?, hh, hm, ht]

theorem readsBack (x : Item) : ReadsBack x := by
  induction x with
  | int i =>
    intro fuel rest hl hf
    have hp := length_encode_pos (.int i)
    obtain ⟨fuel, rfl⟩ : ∃ k, fuel = k + 2 := ⟨fuel - 2, by omega⟩
    exact item?_encodeInt hl fuel rest
  | bytes b =>
    refine .of_succ fun fuel rest hl _ => item?_encodeBytes ?_
    simp only [encode, encodeBytes, List.length_append] at hl
    omega
  | text s =>
    refine .of_succ fun fuel rest hl _ => item?_encodeText ?_
    simp only [encode, encodeBytes, List.length_append] at hl
    omega
  | array xs ih =>
    refine .of_succ fun fuel rest hl hf => ?_
    have hp := length_head_pos 4 xs.length
    have hn := length_le_encodeList xs
    simp only [encode, List.length_append] at hl hf
    rw [encode, List.append_assoc, item?_head_four (by omega),
      items?_encodeList ih rest (by omega) (by omega)]
    rfl
  | map es ih =>
    refine .of_succ fun fuel rest hl hf => ?_
    have hp := length_head_pos 5 es.length
    have hn := length_le_encodeEntries es
    simp only [encode, List.length_append] at hl hf
    rw [encode, List.append_assoc, item?_head_five (by omega),
      entries?_encodeEntries ih rest (by omega) (by omega)]
    rfl
  | bool b =>
    refine .of_succ fun fuel rest _ _ => ?_
    cases b <;> rfl
  | null => exact .of_succ fun fuel rest _ _ => rfl

/-- The canonical form of an item followed by anything is read as that item. -/
theorem decode?_encode_append {x : Item} (h : (encode x).length < 2 ^ 64) (rest : Bytes) :
    decode? (encode x ++ rest) = some x := by
  rw [decode?, readsBack x _ rest h (by rw [List.length_append]; omega)]
  rfl

theorem decode?_encode {x : Item} (h : (encode x).length < 2 ^ 64) : decode? (encode x) = some x := by
  simpa using decode?_encode_append h []

end AlignedLedger.Cbor
