import AlignedLedger.Proofs.Descriptor.Layout

/-! The bytes that stand for a value, written straight from the descriptor and the value, and that the way
through stripped segments comes to the same. -/

namespace AlignedLedger

theorem Bytes.padTo_cons (n : Nat) (x : UInt8) (b : Bytes) :
    Bytes.padTo (n + 1) (x :: b) = x :: b.padTo n := by
  simp [padTo]

namespace LittleEndian

/-- The number in as many bytes as are asked for. -/
def fixed : Nat → Nat → Bytes
  | 0, _ => []
  | width + 1, n => UInt8.ofNat (n % 256) :: fixed width (n / 256)

theorem fixed_zero (width : Nat) : fixed width 0 = Bytes.zeros width := by
  induction width with
  | zero => rfl
  | succ width ih =>
    rw [fixed, Nat.zero_div, ih]
    rfl

/-- The shortest form, filled up, is the form of the full width. -/
theorem padTo_ofNat {width n : Nat} (h : Fits width n) : (ofNat n).padTo width = fixed width n := by
  induction width generalizing n with
  | zero =>
    have hn : ofNat n = [] := List.length_eq_zero_iff.mp (Nat.le_zero.mp h)
    rw [hn]
    rfl
  | succ width ih =>
    by_cases hn : n = 0
    · subst hn
      rw [fixed_zero, ofNat, if_pos rfl]
      rfl
    · have hf : Fits width (n / 256) := by
        rw [fits_iff, Nat.pow_succ] at h
        exact fits_iff.mpr (by omega)
      rw [ofNat, if_neg hn, Bytes.padTo_cons, ih hf, fixed]

end LittleEndian

/-- A segment as it stands in the slot. -/
def Atom.binary (a : Atom) (segment : Bytes) : Bytes :=
  match a.width? with
  | some w => segment.padTo w
  | none => leb128 segment.length ++ segment

namespace Alignment

/-- The segments one after the other, each as it stands in its slot. -/
def binary (as : Alignment) (segments : List Bytes) : Bytes :=
  (List.zipWith Atom.binary as segments).flatten

variable {as bs : Alignment} {ss ts : List Bytes}

theorem binary_singleton (a : Atom) (s : Bytes) : binary [a] [s] = a.binary s := by
  simp [binary]

theorem binary_cons (a : Atom) (s : Bytes) : binary (a :: as) (s :: ss) = a.binary s ++ binary as ss := rfl

theorem Holds.binary_append (h : as.Holds ss) :
    binary (as ++ bs) (ss ++ ts) = binary as ss ++ binary bs ts := by
  rw [binary, List.zipWith_append h.length_eq, List.flatten_append]
  rfl

end Alignment

namespace AlignedValue

theorem binary_eq (a : AlignedValue) : a.binary = a.alignment.binary a.segments := by
  obtain ⟨slots⟩ := a
  unfold binary Alignment.binary alignment segments
  rw [List.zipWith_map, List.zipWith_self, List.flatMap_def]
  rfl

/-- The parts of a value are put together without a look at what is in them. -/
theorem binary_concat (vs : List AlignedValue) : (concat vs).binary = (vs.map binary).flatten := by
  rw [← List.flatMap_def]
  exact List.flatMap_assoc

/-- Going through the slots of all parts again changes none of them. -/
theorem ofSegments_concat (vs : List AlignedValue) :
    ofSegments (vs.flatMap segments) (vs.flatMap alignment) = .ok (concat vs) := by
  have hs : (concat vs).segments = vs.flatMap segments := List.map_flatMap
  have ha : (concat vs).alignment = vs.flatMap alignment := List.map_flatMap
  rw [← hs, ← ha]
  exact ofSegments_self _

theorem layOut_of_length_le [Memory] {a : AlignedValue} (h : a.binary.length ≤ Memory.available) :
    a.layOut = .ok a.binary := by
  rw [length_binary] at h
  rw [layOut, requestBinary_eq_ok.mpr h]
  rfl

end AlignedValue

namespace Descriptor

/-- A truth value as a byte. -/
def truthByte (b : Bool) : UInt8 := if b then 1 else 0

mutual

/-- What stands for a value on the wire: numbers in the full width of their slot, byte strings as they
are, text behind its length, and the parts of composites one after the other. -/
def direct? : Descriptor → Datum → Option Bytes
  | uint _ width, v => v.integer?.map fun i => LittleEndian.fixed width i.toNat
  | enum _ width _, v => v.integer?.map fun i => LittleEndian.fixed width i.toNat
  | bytes _, v => v.bytes?
  | bool, .bool b => some [truthByte b]
  | text, .text s => some (leb128 (Utf8.encode s).length ++ Utf8.encode s)
  | field, v => v.integer?.map fun i => LittleEndian.fixed 32 i.toNat
  | vector _ e, v => do
    let items ← vectorItems? v
    let parts ← items.mapM e.direct?
    pure parts.flatten
  | maybe p, .maybe isSome x => do
    let payload ← p.direct? x
    pure (truthByte isSome.truth :: payload)
  | either l r, .either isLeft x y => do
    let left ← l.direct? x
    let right ← r.direct? y
    pure (truthByte isLeft.truth :: (left ++ right))
  | struct _ fs, .dict es => directFields? fs es
  | _, _ => none

/-- The fields in the order of the descriptor, wherever they stand in the dict. -/
def directFields? : List (String × Descriptor) → List (Datum × Datum) → Option Bytes
  | [], _ => some []
  | (k, d) :: fs, es => do
    let v ← Datum.find? k es
    let front ← d.direct? v
    let rest ← directFields? fs es
    pure (front ++ rest)

end

variable {d : Descriptor} {v : Datum} {segments : List Bytes}

theorem binary_flag (b : Bool) : (Atom.bytes 1).binary (flag b) = [truthByte b] := by
  cases b <;> rfl

theorem binary_ofNat {a : Atom} {width n : Nat} (ha : a.width? = some width)
    (h : LittleEndian.Fits width n) :
    a.binary (LittleEndian.ofNat n) = LittleEndian.fixed width n := by
  rw [Atom.binary, ha]
  exact LittleEndian.padTo_ofNat h

/-- The segments of a value, laid out in the slots of the descriptor, are what stands for the value. -/
def LaysOut [Memory] (d : Descriptor) : Prop :=
  ∀ v segments, d.encode v = .ok segments → d.direct? v = some (d.alignment.binary segments)

theorem direct?_vector {n : Nat} {e : Descriptor} {items : List Datum} {parts : List Bytes}
    (hv : vectorItems? v = some items) (hp : items.mapM e.direct? = some parts) :
    (vector n e).direct? v = some parts.flatten := by
  rw [direct?, hv, Option.bind_eq_bind, Option.bind_some, hp]
  rfl

theorem direct?_each [Memory] {e : Descriptor} (hd : e.WellFormed) (he : e.LaysOut) {xs : List Datum}
    (h : encodeEach e.encode xs = .ok segments) :
    ∃ parts, xs.mapM e.direct? = some parts ∧
      parts.flatten = Alignment.binary (List.replicate xs.length e.alignment).flatten segments := by
  induction xs generalizing segments with
  | nil =>
    cases h
    exact ⟨[], rfl, rfl⟩
  | cons x xs ih =>
    obtain ⟨front, hf, h⟩ := bind_eq_ok.mp h
    obtain ⟨rest, hr, h⟩ := bind_eq_ok.mp h
    cases h
    obtain ⟨parts, hp, hb⟩ := ih hr
    refine ⟨e.alignment.binary front :: parts, by simp [he x front hf, hp], ?_⟩
    rw [List.flatten_cons, hb, List.length_cons, List.replicate_succ, List.flatten_cons,
      (encode_holds hd hf).binary_append]

theorem direct?_fields [Memory] {fs : List (String × Descriptor)} {es : List (Datum × Datum)}
    (hd : ∀ f ∈ fs, f.2.WellFormed) (he : ∀ f ∈ fs, f.2.LaysOut) (h : encodeFields fs es = .ok segments) :
    directFields? fs es = some ((fieldAlignment fs).binary segments) := by
  induction fs generalizing segments with
  | nil =>
    cases h
    rfl
  | cons f fs ih =>
    unfold encodeFields at h
    split at h
    · simp at h
    · next v hv =>
      obtain ⟨front, hf, h⟩ := bind_eq_ok.mp h
      obtain ⟨rest, hr, h⟩ := bind_eq_ok.mp h
      cases h
      have hfront := he f (by simp) v front hf
      have hrest := ih (fun g hg => hd g (List.mem_cons_of_mem _ hg))
        (fun g hg => he g (List.mem_cons_of_mem _ hg)) hr
      rw [fieldAlignment, (encode_holds (hd f (by simp)) hf).binary_append]
      simp [directFields?, hv, hfront, hrest]

theorem laysOut [Memory] (hd : d.WellFormed) : d.LaysOut := by
  induction d with
  | uint max width =>
    intro v segments h
    obtain ⟨n, hv, hn, rfl⟩ := encodeInteger_eq_ok h
    rw [alignment, Alignment.binary_singleton, binary_ofNat rfl (hd.2.mono hn), direct?, hv]
    rfl
  | enum max width cls =>
    intro v segments h
    obtain ⟨n, hv, hn, rfl⟩ := encodeInteger_eq_ok h
    rw [alignment, Alignment.binary_singleton, binary_ofNat rfl (hd.2.mono hn), direct?, hv]
    rfl
  | bytes n =>
    intro v segments h
    obtain ⟨b, hv, hb, -, rfl⟩ := encodeBytes_eq_ok h
    rw [alignment, Alignment.binary_singleton, direct?, hv]
    exact congrArg some (Bytes.padTo_stripZeros hb).symm
  | bool =>
    intro v segments h
    obtain ⟨b, rfl, rfl⟩ := encode_bool_eq_ok h
    rw [alignment, Alignment.binary_singleton, binary_flag, direct?]
  | text =>
    intro v segments h
    obtain ⟨s, rfl, rfl⟩ := encode_text_eq_ok h
    rw [alignment, Alignment.binary_singleton, direct?]
    rfl
  | field =>
    intro v segments h
    obtain ⟨n, hv, hn, rfl⟩ := encodeField_eq_ok h
    have hf : LittleEndian.Fits 32 n := LittleEndian.fits_iff.mpr (by simpa using hn)
    rw [alignment, Alignment.binary_singleton, binary_ofNat rfl hf, direct?, hv]
    rfl
  | vector n e ih =>
    intro v segments h
    obtain ⟨xs, hv, rfl, he⟩ := encode_vector_eq_ok h
    obtain ⟨parts, hp, hb⟩ := direct?_each (e := e) hd (ih hd) he
    rw [alignment, ← hb]
    exact direct?_vector hv hp
  | maybe p ih =>
    intro v segments h
    obtain ⟨a, x, payload, rfl, hp, -, rfl⟩ := encode_maybe_eq_ok h
    rw [alignment, Alignment.binary_cons, binary_flag]
    simp [direct?, ih hd x payload hp]
  | either l r ihl ihr =>
    intro v segments h
    obtain ⟨a, x, y, left, right, rfl, hl, hr, -, -, rfl⟩ := encode_either_eq_ok h
    rw [alignment, Alignment.binary_cons, binary_flag, (encode_holds hd.1 hl).binary_append]
    simp [direct?, ihl hd.1 x left hl, ihr hd.2 y right hr]
  | struct name fs ih =>
    intro v segments h
    obtain ⟨es, rfl, -, he⟩ := encode_struct_eq_ok h
    have hfs := fieldsWellFormed_iff.mp hd.2
    rw [alignment, direct?]
    exact direct?_fields hfs (fun f hf => ih f hf (hfs f hf)) he

/-- An accepted value has a binary form, and that is what the value's bytes are. -/
theorem aligned_of_direct [Memory] (hd : d.WellFormed) (h : d.encode v = .ok segments) :
    ∃ a, d.aligned v = .ok a ∧ d.direct? v = some a.binary := by
  obtain ⟨a, ha, rfl, halign⟩ := aligned_of_encode hd h
  refine ⟨a, ha, ?_⟩
  rw [a.binary_eq, halign]
  exact laysOut hd v _ h

section Hash

variable {n k : Nat} {items : List Datum} {parts : List Bytes}

/-- Hashing takes in the whole binary form; room for it is all that can be missing. -/
theorem persistentHash_of_aligned [Memory] {a : AlignedValue} (h : d.aligned v = .ok a) :
    (a.binary.length ≤ Memory.available → d.persistentHash v = .ok (sha256 a.binary)) ∧
      (Memory.available < a.binary.length → ∃ e, d.persistentHash v = .error e ∧
        (e.kind = .overflow ∨ e.kind = .memory)) := by
  rw [persistentHash, h, ok_bind]
  constructor
  · intro hl
    rw [AlignedValue.layOut_of_length_le hl]
    rfl
  · intro hl
    rw [AlignedValue.length_binary] at hl
    cases hr : a.requestBinary with
    | ok u => exact absurd (AlignedValue.requestBinary_eq_ok.mp hr) (Nat.not_le.mpr hl)
    | error e =>
      refine ⟨e, ?_, (AlignedValue.kind_of_requestBinary hr).1⟩
      rw [AlignedValue.layOut, hr]
      rfl

theorem encode_bytes [Memory] {x : Datum} {b : Bytes} (hx : x.bytes? = some b) (hk : b.length = k) :
    (bytes k).encode x = (Memory.request k).map fun _ => [b.stripZeros] := by
  simp only [encode, encodeBytes, hx, if_pos hk]

theorem encodeEach_bytes [Memory] (hp : List.Forall₂ (fun x b => x.bytes? = some b) items parts)
    (hk : ∀ b ∈ parts, b.length = k) (hm : ∀ b ∈ parts, b.length ≤ Memory.available) :
    encodeEach (bytes k).encode items = .ok (parts.map Bytes.stripZeros) := by
  induction hp with
  | nil => rfl
  | @cons x b items parts hx _ ih =>
    have hr : Memory.request k = .ok () :=
      Memory.request_eq_ok_iff.mpr (hk b (by simp) ▸ hm b (by simp))
    rw [encodeEach, encode_bytes hx (hk b (by simp)), hr, ih (fun c hc => hk c (List.mem_cons_of_mem _ hc))
      fun c hc => hm c (List.mem_cons_of_mem _ hc)]
    rfl

/-- The first element fails, and the others are not looked at. -/
theorem encodeEach_bytes_error [Memory] {e : Fault} (hp : List.Forall₂ (fun x b => x.bytes? = some b) items parts)
    (hk : ∀ b ∈ parts, b.length = k) (hne : parts ≠ []) (hr : Memory.request k = .error e) :
    encodeEach (bytes k).encode items = .error e := by
  cases hp with
  | nil => exact absurd rfl hne
  | cons hx _ =>
    rw [encodeEach, encode_bytes hx (hk _ List.mem_cons_self), hr]
    rfl

theorem encode_vector [Memory] {e : Descriptor} (hv : vectorItems? v = some items) (hn : items.length = n) :
    (vector n e).encode v = encodeEach e.encode items := by
  rw [encode, hv]
  exact if_pos hn

theorem direct?_bytes (hv : vectorItems? v = some items)
    (hp : List.Forall₂ (fun x b => x.bytes? = some b) items parts) :
    (vector n (bytes k)).direct? v = some parts.flatten := by
  refine direct?_vector hv ?_
  clear hv
  induction hp with
  | nil => rfl
  | cons hx _ ih =>
    rw [List.mapM_cons, ih, direct?, hx]
    rfl

theorem length_flatten_of_length (hn : parts.length = n) (hk : ∀ b ∈ parts, b.length = k) :
    parts.flatten.length = n * k := by
  rw [List.length_flatten, List.map_congr_left hk, List.map_const', List.sum_replicate_nat, hn]

/-- The hash of a list of byte strings of one length is the hash of the strings one after the other. -/
theorem persistentHash_bytes [Memory] (hv : vectorItems? v = some items)
    (hp : List.Forall₂ (fun x b => x.bytes? = some b) items parts) (hn : parts.length = n)
    (hk : ∀ b ∈ parts, b.length = k) :
    (n * k ≤ Memory.available → (vector n (bytes k)).persistentHash v = .ok (sha256 parts.flatten)) ∧
      (Memory.available < n * k → ∃ e, (vector n (bytes k)).persistentHash v = .error e ∧
        (e.kind = .overflow ∨ e.kind = .memory)) := by
  have hitems : items.length = n := hp.length_eq.trans hn
  -- An element that is too long by itself is not even encoded; otherwise the room is asked for at the end.
  by_cases hm : ∀ b ∈ parts, b.length ≤ Memory.available
  · have he : (vector n (bytes k)).encode v = .ok (parts.map Bytes.stripZeros) :=
      (encode_vector hv hitems).trans (encodeEach_bytes hp hk hm)
    obtain ⟨a, ha, hdirect⟩ := aligned_of_direct (d := vector n (bytes k)) trivial he
    have hb : parts.flatten = a.binary := Option.some.inj ((direct?_bytes hv hp).symm.trans hdirect)
    rw [← length_flatten_of_length hn hk, hb]
    exact persistentHash_of_aligned ha
  · push Not at hm
    obtain ⟨b, hb, hl⟩ := hm
    rw [hk b hb] at hl
    have hne : parts ≠ [] := List.ne_nil_of_mem hb
    have hlong : Memory.available < n * k :=
      Nat.lt_of_lt_of_le hl (Nat.le_mul_of_pos_left k (hn ▸ List.length_pos_iff.mpr hne))
    cases hr : Memory.request k with
    | ok u => exact absurd (Memory.request_eq_ok_iff.mp hr) (Nat.not_le.mpr hl)
    | error e =>
      have he := (encode_vector hv hitems).trans (encodeEach_bytes_error hp hk hne hr)
      refine ⟨fun hle => absurd hle (Nat.not_le.mpr hlong), fun _ => ⟨e, ?_, Memory.kind_of_request hr⟩⟩
      rw [persistentHash, aligned, he]
      rfl

end Hash

/-- The binary form of an accepted value is written straight from it. So the hash of a list of byte strings
of one length is the hash of these strings one after the other, as far as there is room for them, and of
parts that are put together the binary forms are put together. -/
theorem direct_layout [Memory] :
    (∀ (d : Descriptor) (v : Datum) (segments : List Bytes), d.WellFormed → d.encode v = .ok segments →
      ∃ a, d.aligned v = .ok a ∧ d.direct? v = some a.binary ∧
        (a.binary.length ≤ Memory.available → a.layOut = .ok a.binary)) ∧
    (∀ (n k : Nat) (v : Datum) (items : List Datum) (parts : List Bytes), vectorItems? v = some items →
      List.Forall₂ (fun x b => x.bytes? = some b) items parts → parts.length = n →
      (∀ b ∈ parts, b.length = k) →
      (n * k ≤ Memory.available → (vector n (bytes k)).persistentHash v = .ok (sha256 parts.flatten)) ∧
        (Memory.available < n * k → ∃ e, (vector n (bytes k)).persistentHash v = .error e ∧
          (e.kind = .overflow ∨ e.kind = .memory))) ∧
    ∀ vs : List AlignedValue,
      AlignedValue.ofSegments (vs.flatMap AlignedValue.segments) (vs.flatMap AlignedValue.alignment) =
          .ok (.concat vs) ∧
        (AlignedValue.concat vs).binary = (vs.map AlignedValue.binary).flatten := by
  refine ⟨fun d v segments hd h => ?_, fun n k v items parts => persistentHash_bytes, fun vs => ?_⟩
  · obtain ⟨a, ha, hdirect⟩ := aligned_of_direct hd h
    exact ⟨a, ha, hdirect, AlignedValue.layOut_of_length_le⟩
  · exact ⟨AlignedValue.ofSegments_concat vs, AlignedValue.binary_concat vs⟩

/-- Zeros at the end of a number and of a byte string are there, also where nothing else is, and a slot
without room takes up none. -/
theorem direct_layout_of_zeros :
    let d : Descriptor := .struct "Entry" [("count", .uint 70000 3), ("seal", .bytes 2), ("gap", .bytes 0),
      ("note", .maybe .text)]
    let v : Datum := .dict [(.text "note", .maybe (.bool true) (.text "hi")), (.text "gap", .bytes []),
      (.text "seal", .bytes [0, 0]), (.text "count", .int 256)]
    let pair : Datum := .tuple [.bytes [7, 0], .bytes [0, 0]]
    d.WellFormed ∧ d.encode v = .ok [[0, 1], [], [], [1], [0x68, 0x69]] ∧
      (∃ a, d.aligned v = .ok a ∧ a.binary = [0, 1, 0, 0, 0, 1, 2, 0x68, 0x69]) ∧
      (vector 2 (bytes 2)).persistentHash pair = .ok (sha256 [7, 0, 0, 0]) := by
  intro d v pair
  obtain ⟨hbinary, hhash, -⟩ := direct_layout
  have htext : Utf8.encode "hi" = [0x68, 0x69] := by decide +kernel
  have hd : d.WellFormed := by
    simp [d, WellFormed, FieldsWellFormed, LittleEndian.fits_iff]
  have hm : ∀ n, n ≤ Memory.available → Memory.request n = .ok () := fun _ => Memory.request_eq_ok_iff.mpr
  have hcount : (uintName 70000).spell = .ok () := Label.spell_of_lt (by simp [uintName])
  have he : d.encode v = .ok [[0, 1], [], [], [1], [0x68, 0x69]] := by
    simp [d, v, encode, encodeFields, encodeInteger, encodeBytes, flag, namesMatch, hm 0 (by decide),
      hm 2 (by decide), Bytes.stripZeros, Datum.find?, Datum.same, Datum.integer?, Datum.bytes?, Datum.truth,
      LittleEndian.ofNat, htext, hcount]
  have hdirect : d.direct? v = some [0, 1, 0, 0, 0, 1, 2, 0x68, 0x69] := by
    simp [d, v, direct?, directFields?, Datum.find?, Datum.integer?, Datum.bytes?, Datum.truth, truthByte,
      LittleEndian.fixed, leb128, htext]
  obtain ⟨a, ha, hb, -⟩ := hbinary d v _ hd he
  refine ⟨hd, he, ⟨a, ha, Option.some.inj (hb.symm.trans hdirect)⟩, ?_⟩
  exact (hhash 2 2 pair _ [[7, 0], [0, 0]] rfl (.cons rfl (.cons rfl .nil)) rfl (by simp)).1 (by decide)

end Descriptor

end AlignedLedger
