import AlignedLedger.Descriptor.Encode
import AlignedLedger.Proofs.Alignment.Segments
import AlignedLedger.Proofs.Bytes.Digits
import AlignedLedger.Proofs.Descriptor.Shape
import AlignedLedger.Proofs.Label

/-! Encoding lays a value out in the slots of its descriptor, one segment a slot, each in the form that
the slot keeps. -/

namespace AlignedLedger.Descriptor

attribute [local simp] encode

theorem fieldsWellFormed_iff {fs : List (String × Descriptor)} :
    FieldsWellFormed fs ↔ ∀ f ∈ fs, f.2.WellFormed := by
  induction fs with
  | nil => simp [FieldsWellFormed]
  | cons f fs ih => simp [FieldsWellFormed, ih]

theorem encodeInteger_eq_ok {name : Label} {max : Nat} {v : Datum} {segments : List Bytes}
    (h : encodeInteger name max v = .ok segments) :
    ∃ n : Nat, v.integer? = some (n : Int) ∧ n ≤ max ∧ segments = [LittleEndian.ofNat n] := by
  obtain ⟨_, -, h⟩ := bind_eq_ok.mp h
  split at h
  · simp at h
  · next i hi =>
    split at h
    · next hr =>
      refine ⟨i.toNat, hi.trans (congrArg some (Int.toNat_of_nonneg hr.1).symm), by omega, ?_⟩
      exact (Except.ok.inj h).symm
    · simp at h

/-- Nothing is written of a number whose name is too long. -/
theorem isWritable_of_encodeInteger {name : Label} {max : Nat} {v : Datum} {segments : List Bytes}
    (h : encodeInteger name max v = .ok segments) : name.isWritable = true := by
  obtain ⟨_, hname, -⟩ := bind_eq_ok.mp h
  exact Label.spell_eq_ok_iff.mp hname

theorem encodeInteger_of_isWritable {name : Label} {max n : Nat} {v : Datum}
    (hname : name.isWritable = true) (hv : v.integer? = some (n : Int)) (hn : n ≤ max) :
    encodeInteger name max v = .ok [LittleEndian.ofNat n] := by
  have hrange : 0 ≤ (n : Int) ∧ (n : Int) ≤ max := by omega
  rw [encodeInteger, Label.spell_of_isWritable hname, ok_bind, hv]
  exact if_pos hrange

theorem encodeField_eq_ok {v : Datum} {segments : List Bytes} (h : encodeField v = .ok segments) :
    ∃ n : Nat, v.integer? = some (n : Int) ∧ n < 2 ^ 256 ∧ segments = [LittleEndian.ofNat n] := by
  unfold encodeField at h
  split at h
  · simp at h
  · next i hi =>
    split at h
    · next hr =>
      refine ⟨i.toNat, hi.trans (congrArg some (Int.toNat_of_nonneg hr.1).symm), by omega, ?_⟩
      exact (Except.ok.inj h).symm
    · simp at h

theorem encodeBytes_eq_ok [Memory] {n : Nat} {v : Datum} {segments : List Bytes}
    (h : encodeBytes n v = .ok segments) :
    ∃ b, v.bytes? = some b ∧ b.length = n ∧ Memory.request n = .ok () ∧
      segments = [b.stripZeros] := by
  unfold encodeBytes at h
  split at h
  · simp at h
  · next b hb =>
    split at h
    · next hn =>
      obtain ⟨_, hm, hs⟩ := map_eq_ok.mp h
      exact ⟨b, hb, hn, hm, hs.symm⟩
    · simp at h

theorem encode_bool_eq_ok [Memory] {v : Datum} {segments : List Bytes} (h : bool.encode v = .ok segments) :
    ∃ b, v = .bool b ∧ segments = [flag b] := by
  simp only [encode] at h
  split at h
  · next b => exact ⟨b, rfl, (Except.ok.inj h).symm⟩
  · simp at h

theorem encode_text_eq_ok [Memory] {v : Datum} {segments : List Bytes} (h : text.encode v = .ok segments) :
    ∃ s, v = .text s ∧ segments = [Utf8.encode s] := by
  simp only [encode] at h
  split at h
  · next s => exact ⟨s, rfl, (Except.ok.inj h).symm⟩
  · simp at h
  · simp at h

theorem encode_vector_eq_ok [Memory] {n : Nat} {e : Descriptor} {v : Datum} {segments : List Bytes}
    (h : (vector n e).encode v = .ok segments) :
    ∃ xs, vectorItems? v = some xs ∧ xs.length = n ∧ encodeEach e.encode xs = .ok segments := by
  simp only [encode] at h
  split at h
  · simp at h
  · next xs hx =>
    split at h
    · next hn => exact ⟨xs, hx, hn, h⟩
    · simp at h

theorem requirePlaceholder_eq_ok [Memory] {d : Descriptor} {v : Datum} {slot : Label}
    (h : d.requirePlaceholder v slot = .ok ()) : ∃ p, d.placeholder = .ok p ∧ v.same p = true := by
  obtain ⟨_, -, h⟩ := bind_eq_ok.mp h
  obtain ⟨p, hp, h⟩ := bind_eq_ok.mp h
  split at h
  · next hs => exact ⟨p, hp, hs⟩
  · simp at h

theorem isWritable_of_requirePlaceholder [Memory] {d : Descriptor} {v : Datum} {slot : Label}
    (h : d.requirePlaceholder v slot = .ok ()) : slot.isWritable = true := by
  obtain ⟨_, hslot, -⟩ := bind_eq_ok.mp h
  exact Label.spell_eq_ok_iff.mp hslot

theorem encode_maybe_eq_ok [Memory] {p : Descriptor} {v : Datum} {segments : List Bytes}
    (h : (maybe p).encode v = .ok segments) :
    ∃ a x payload, v = .maybe a x ∧ p.encode x = .ok payload ∧
      (a.truth = false → ∃ y, p.placeholder = .ok y ∧ x.same y = true) ∧
      segments = flag a.truth :: payload := by
  simp only [encode] at h
  split at h
  · next a x =>
    cases ha : a.truth with
    | true =>
      simp only [ha, Bool.not_true, Bool.false_eq_true, if_false] at h
      obtain ⟨payload, hp, h⟩ := bind_eq_ok.mp h
      exact ⟨a, x, payload, rfl, hp, by simp [ha], by rw [ha]; exact (Except.ok.inj h).symm⟩
    | false =>
      simp only [ha, Bool.not_false, if_true] at h
      obtain ⟨_, hr, h⟩ := bind_eq_ok.mp h
      obtain ⟨payload, hp, h⟩ := bind_eq_ok.mp h
      exact ⟨a, x, payload, rfl, hp, fun _ => requirePlaceholder_eq_ok hr,
        by rw [ha]; exact (Except.ok.inj h).symm⟩
  · simp at h

theorem isWritable_of_encode_absent [Memory] {p : Descriptor} {a x : Datum} {segments : List Bytes}
    (h : (maybe p).encode (.maybe a x) = .ok segments) (ha : a.truth = false) :
    (maybe p).name.isWritable = true := by
  simp only [encode, ha, Bool.not_false, if_true] at h
  obtain ⟨_, hr, -⟩ := bind_eq_ok.mp h
  simpa using isWritable_of_requirePlaceholder hr

theorem encode_either_eq_ok [Memory] {l r : Descriptor} {v : Datum} {segments : List Bytes}
    (h : (either l r).encode v = .ok segments) :
    ∃ a x y left right, v = .either a x y ∧ l.encode x = .ok left ∧ r.encode y = .ok right ∧
      (a.truth = true → ∃ z, r.placeholder = .ok z ∧ y.same z = true) ∧
      (a.truth = false → ∃ z, l.placeholder = .ok z ∧ x.same z = true) ∧
      segments = flag a.truth :: (left ++ right) := by
  simp only [encode] at h
  split at h
  · next a x y =>
    cases ha : a.truth with
    | true =>
      simp only [ha, if_true] at h
      obtain ⟨_, hz, h⟩ := bind_eq_ok.mp h
      obtain ⟨left, hl, h⟩ := bind_eq_ok.mp h
      obtain ⟨right, hr, h⟩ := bind_eq_ok.mp h
      exact ⟨a, x, y, left, right, rfl, hl, hr, fun _ => requirePlaceholder_eq_ok hz, by simp [ha],
        by rw [ha]; exact (Except.ok.inj h).symm⟩
    | false =>
      simp only [ha, Bool.false_eq_true, if_false] at h
      obtain ⟨_, hz, h⟩ := bind_eq_ok.mp h
      obtain ⟨left, hl, h⟩ := bind_eq_ok.mp h
      obtain ⟨right, hr, h⟩ := bind_eq_ok.mp h
      exact ⟨a, x, y, left, right, rfl, hl, hr, by simp [ha], fun _ => requirePlaceholder_eq_ok hz,
        by rw [ha]; exact (Except.ok.inj h).symm⟩
  · simp at h

theorem isWritable_of_encode_either [Memory] {l r : Descriptor} {v : Datum} {segments : List Bytes}
    (h : (either l r).encode v = .ok segments) : (either l r).name.isWritable = true := by
  simp only [encode] at h
  split at h
  · split at h
    · obtain ⟨_, hr, -⟩ := bind_eq_ok.mp h
      simpa using isWritable_of_requirePlaceholder hr
    · obtain ⟨_, hr, -⟩ := bind_eq_ok.mp h
      simpa using isWritable_of_requirePlaceholder hr
  · simp at h

theorem encode_struct_eq_ok [Memory] {name : String} {fs : List (String × Descriptor)} {v : Datum}
    {segments : List Bytes} (h : (struct name fs).encode v = .ok segments) :
    ∃ es, v = .dict es ∧ namesMatch (fs.map Prod.fst) (es.map Prod.fst) = true ∧
      encodeFields fs es = .ok segments := by
  simp only [encode] at h
  split at h
  · next es =>
    split at h
    · next hn => exact ⟨es, rfl, hn, h⟩
    · simp at h
  · simp at h

theorem holds_ofNat {width max n : Nat} (hw : LittleEndian.Fits width max) (hn : n ≤ max) :
    (Atom.bytes width).Holds (LittleEndian.ofNat n) :=
  ⟨hw.mono hn, LittleEndian.trimmed_ofNat n⟩

theorem holds_field_ofNat {n : Nat} (hn : n < 2 ^ 256) : Atom.field.Holds (LittleEndian.ofNat n) :=
  ⟨LittleEndian.fits_iff.mpr (by simpa [Atom.fieldWidth] using hn), LittleEndian.trimmed_ofNat n⟩

theorem holds_stripZeros {n : Nat} {b : Bytes} (hb : b.length = n) :
    (Atom.bytes n).Holds b.stripZeros :=
  ⟨hb ▸ Bytes.length_stripZeros_le b, Bytes.trimmed_stripZeros b⟩

theorem holds_flag (b : Bool) : (Atom.bytes 1).Holds (flag b) := by
  cases b <;> decide

theorem encodeEach_holds {encode : Datum → Except Fault (List Bytes)} {as : Alignment}
    (he : ∀ v segments, encode v = .ok segments → as.Holds segments) {xs : List Datum}
    {segments : List Bytes} (h : encodeEach encode xs = .ok segments) :
    Alignment.Holds (List.replicate xs.length as).flatten segments := by
  induction xs generalizing segments with
  | nil =>
    cases h
    exact .nil
  | cons x xs ih =>
    obtain ⟨front, hf, h⟩ := bind_eq_ok.mp h
    obtain ⟨rest, hr, h⟩ := bind_eq_ok.mp h
    cases h
    exact (he x front hf).append (ih hr)

variable [Memory]

theorem encodeFields_holds {fs : List (String × Descriptor)} {es : List (Datum × Datum)}
    {segments : List Bytes}
    (he : ∀ f ∈ fs, ∀ v segments, f.2.encode v = .ok segments → f.2.alignment.Holds segments)
    (h : encodeFields fs es = .ok segments) : (fieldAlignment fs).Holds segments := by
  induction fs generalizing segments with
  | nil =>
    cases h
    exact .nil
  | cons f fs ih =>
    unfold encodeFields at h
    split at h
    · simp at h
    · next v hv =>
      obtain ⟨front, hf, h⟩ := bind_eq_ok.mp h
      obtain ⟨rest, hr, h⟩ := bind_eq_ok.mp h
      cases h
      exact (he f (by simp) v front hf).append
        (ih (fun g hg => he g (List.mem_cons_of_mem _ hg)) hr)

/-- Whatever value is accepted, its segments are those that the slots keep, one for each. -/
theorem encode_holds {d : Descriptor} (hd : d.WellFormed) {v : Datum} {segments : List Bytes}
    (h : d.encode v = .ok segments) : d.alignment.Holds segments := by
  induction d generalizing v segments with
  | uint max width =>
    obtain ⟨n, -, hn, rfl⟩ := encodeInteger_eq_ok h
    exact .cons (holds_ofNat hd.2 hn) .nil
  | enum max width cls =>
    obtain ⟨n, -, hn, rfl⟩ := encodeInteger_eq_ok h
    exact .cons (holds_ofNat hd.2 hn) .nil
  | bytes n =>
    obtain ⟨b, -, hb, -, rfl⟩ := encodeBytes_eq_ok h
    exact .cons (holds_stripZeros hb) .nil
  | bool =>
    obtain ⟨b, -, rfl⟩ := encode_bool_eq_ok h
    exact .cons (holds_flag b) .nil
  | text =>
    obtain ⟨s, -, rfl⟩ := encode_text_eq_ok h
    exact .cons (Atom.holds_compress _) .nil
  | field =>
    obtain ⟨n, -, hn, rfl⟩ := encodeField_eq_ok h
    exact .cons (holds_field_ofNat hn) .nil
  | vector n e ih =>
    obtain ⟨xs, -, rfl, he⟩ := encode_vector_eq_ok h
    exact encodeEach_holds (fun _ _ => ih hd) he
  | maybe p ih =>
    obtain ⟨a, x, payload, -, hp, -, rfl⟩ := encode_maybe_eq_ok h
    exact .cons (holds_flag _) (ih hd hp)
  | either l r ihl ihr =>
    obtain ⟨a, x, y, left, right, -, hl, hr, -, -, rfl⟩ := encode_either_eq_ok h
    exact .cons (holds_flag _) ((ihl hd.1 hl).append (ihr hd.2 hr))
  | struct name fs ih =>
    obtain ⟨es, -, -, he⟩ := encode_struct_eq_ok h
    exact encodeFields_holds (fun f hf _ _ => ih f hf (fieldsWellFormed_iff.mp hd.2 f hf)) he

/-- An accepted value can be laid out, and no segment changes on the way. -/
theorem aligned_of_encode {d : Descriptor} (hd : d.WellFormed) {v : Datum} {segments : List Bytes}
    (h : d.encode v = .ok segments) :
    ∃ a, d.aligned v = .ok a ∧ a.segments = segments ∧ a.alignment = d.alignment := by
  obtain ⟨a, ha, hs⟩ := AlignedValue.exists_of_holds (encode_holds hd h)
  refine ⟨a, ?_, hs, ha⟩
  rw [aligned, h, ok_bind, ← hs, ← ha]
  exact AlignedValue.ofSegments_self a

end AlignedLedger.Descriptor
