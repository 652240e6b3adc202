import AlignedLedger.Proofs.Descriptor.Refusal

/-! Names that are called for while a value is written. Integers call for the names of their descriptors,
absent payloads and sides that are not selected for those of their slots, be anything wrong or not; a name
with a number that is too long stops the writing of a value that is in order. -/

namespace AlignedLedger.Descriptor

/-- Every name that is called for when the value is written is short enough. -/
inductive Nameable : Descriptor → Datum → Prop
  | uint {max width : Nat} {v : Datum} (hw : (uintName max).isWritable = true) :
    Nameable (.uint max width) v
  | enum {max width : Nat} {cls : Option EnumClass} {v : Datum}
    (hw : (enumName max cls).isWritable = true) : Nameable (.enum max width cls) v
  | bytes (length : Nat) (v : Datum) : Nameable (.bytes length) v
  | bool (v : Datum) : Nameable .bool v
  | text (v : Datum) : Nameable .text v
  | field (v : Datum) : Nameable .field v
  | vector {count : Nat} {e : Descriptor} {v : Datum} {xs : List Datum} (hx : vectorItems? v = some xs)
    (h : ∀ x ∈ xs, Nameable e x) : Nameable (.vector count e) v
  | maybe {p : Descriptor} {a x : Datum}
    (hw : a.truth = false → (Descriptor.maybe p).name.isWritable = true) (h : Nameable p x) :
    Nameable (.maybe p) (.maybe a x)
  | either {l r : Descriptor} {a x y : Datum} (hw : (Descriptor.either l r).name.isWritable = true)
    (hl : Nameable l x) (hr : Nameable r y) : Nameable (.either l r) (.either a x y)
  | struct {name : String} {fs : List (String × Descriptor)} {es : List (Datum × Datum)}
    (h : ∀ f ∈ fs, ∀ v, Datum.find? f.1 es = some v → Nameable f.2 v) : Nameable (.struct name fs) (.dict es)

section Parts

variable {n max width : Nat} {cls : Option EnumClass} {e p l r : Descriptor} {v a x y : Datum}
variable {xs : List Datum} {name : String} {fs : List (String × Descriptor)} {es : List (Datum × Datum)}

theorem nameable_uint : (uint max width).Nameable v ↔ (uintName max).isWritable = true := by
  constructor
  · intro h
    cases h with
    | uint hw => exact hw
  · exact .uint

theorem nameable_enum : (enum max width cls).Nameable v ↔ (enumName max cls).isWritable = true := by
  constructor
  · intro h
    cases h with
    | enum hw => exact hw
  · exact .enum

theorem nameable_vector (hx : vectorItems? v = some xs) :
    (vector n e).Nameable v ↔ ∀ x ∈ xs, e.Nameable x := by
  refine ⟨fun h => ?_, .vector hx⟩
  cases h with
  | vector hx' h =>
    cases hx.symm.trans hx'
    exact h

theorem nameable_maybe : (maybe p).Nameable (.maybe a x) ↔
    (a.truth = false → (maybe p).name.isWritable = true) ∧ p.Nameable x := by
  constructor
  · intro h
    cases h with
    | maybe hw h => exact ⟨hw, h⟩
  · rintro ⟨hw, h⟩
    exact .maybe hw h

theorem nameable_either : (either l r).Nameable (.either a x y) ↔
    (either l r).name.isWritable = true ∧ l.Nameable x ∧ r.Nameable y := by
  constructor
  · intro h
    cases h with
    | either hw hl hr => exact ⟨hw, hl, hr⟩
  · rintro ⟨hw, hl, hr⟩
    exact .either hw hl hr

theorem nameable_struct : (struct name fs).Nameable (.dict es) ↔
    ∀ f ∈ fs, ∀ v, Datum.find? f.1 es = some v → f.2.Nameable v := by
  refine ⟨fun h => ?_, .struct⟩
  cases h with
  | struct h => exact h

end Parts

variable [Memory]

/-- What is written at all, no name has stood in the way of. -/
theorem nameable_of_encode {d : Descriptor} {v : Datum} {segments : List Bytes}
    (h : d.encode v = .ok segments) : d.Nameable v := by
  induction d generalizing v segments with
  | uint max width => exact .uint (isWritable_of_encodeInteger h)
  | enum max width cls => exact .enum (isWritable_of_encodeInteger h)
  | bytes n => exact .bytes n v
  | bool => exact .bool v
  | text => exact .text v
  | field => exact .field v
  | vector n e ih =>
    obtain ⟨xs, hx, -, he⟩ := encode_vector_eq_ok h
    rw [encodeEach_eq_mapM] at he
    have hitems := exists_mapM_ok.mp (exists_map.mp ⟨_, he⟩)
    refine .vector hx fun x hmem => ?_
    obtain ⟨s, hs⟩ := hitems x hmem
    exact ih hs
  | maybe p ih =>
    obtain ⟨a, x, payload, rfl, hp, -, -⟩ := encode_maybe_eq_ok h
    exact .maybe (isWritable_of_encode_absent h) (ih hp)
  | either l r ihl ihr =>
    obtain ⟨a, x, y, left, right, rfl, hl, hr, -, -, -⟩ := encode_either_eq_ok h
    exact .either (isWritable_of_encode_either h) (ihl hl) (ihr hr)
  | struct name fs ih =>
    obtain ⟨es, rfl, -, he⟩ := encode_struct_eq_ok h
    rw [encodeFields_eq_mapM] at he
    have hentries := exists_mapM_ok.mp (exists_map.mp ⟨_, he⟩)
    refine .struct fun f hf v hv => ?_
    obtain ⟨s, hs⟩ := hentries f hf
    rw [encodeEntry, hv] at hs
    exact ih f hf hs

end AlignedLedger.Descriptor
