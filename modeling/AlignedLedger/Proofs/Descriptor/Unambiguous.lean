import AlignedLedger.Proofs.Descriptor.BinaryLayout
import AlignedLedger.Proofs.Descriptor.RoundTrip

/-! What is hashed of a value tells the value: different values of one descriptor differ in their segments,
and so in their binary forms. -/

namespace AlignedLedger

theorem LittleEndian.ofNat_injective : Function.Injective ofNat :=
  Function.LeftInverse.injective toNat_ofNat

theorem Utf8.encode_injective : Function.Injective encode := by
  intro s t h
  have hd := decode?_encode s
  rw [h, decode?_encode] at hd
  exact (Option.some.inj hd).symm

theorem Bytes.eq_of_stripZeros_eq {n : Nat} {b c : Bytes} (hb : b.length = n) (hc : c.length = n)
    (h : b.stripZeros = c.stripZeros) : b = c := by
  rw [← padTo_stripZeros hb, h, padTo_stripZeros hc]

namespace Descriptor

variable {d e : Descriptor} {v w : Datum} {segments : List Bytes}

theorem flag_injective : Function.Injective flag := by
  intro a b h
  cases a <;> cases b <;> first | rfl | cases h

/-- Values of the documented shape that have the same segments are equal. -/
def Separates [Memory] (d : Descriptor) : Prop :=
  ∀ v w segments, d.HasShape v → d.HasShape w → d.encode v = .ok segments → d.encode w = .ok segments →
    v.same w = true

/-- The segments of two values in front of others are split at the same place. -/
theorem append_inj_of_encode [Memory] {front front' rest rest' : List Bytes} (hd : d.WellFormed)
    (hv : d.encode v = .ok front) (hw : d.encode w = .ok front') (h : front ++ rest = front' ++ rest') :
    front = front' ∧ rest = rest' :=
  List.append_inj h ((encode_holds hd hv).length_eq.symm.trans (encode_holds hd hw).length_eq)

/-- One segment tells the number. -/
theorem same_of_segment {m n : Nat} (hv : v.integer? = some (m : Int)) (hw : w.integer? = some (n : Int))
    (h : [LittleEndian.ofNat m] = [LittleEndian.ofNat n]) : v.same w = true := by
  obtain rfl : m = n := LittleEndian.ofNat_injective (List.singleton_inj.mp h)
  exact Datum.same_of_integer? hv hw

theorem same_of_encodeInteger {name : Label} {max : Nat} (hv : encodeInteger name max v = .ok segments)
    (hw : encodeInteger name max w = .ok segments) : v.same w = true := by
  obtain ⟨m, hm, -, rfl⟩ := encodeInteger_eq_ok hv
  obtain ⟨n, hn, -, he⟩ := encodeInteger_eq_ok hw
  exact same_of_segment hm hn he

theorem sameList_of_encodeEach [Memory] (hd : e.WellFormed) (he : e.Separates) {xs ys : List Datum}
    (hl : xs.length = ys.length) (hx : ∀ x ∈ xs, e.HasShape x) (hy : ∀ y ∈ ys, e.HasShape y)
    (hv : encodeEach e.encode xs = .ok segments) (hw : encodeEach e.encode ys = .ok segments) :
    Datum.sameList xs ys = true := by
  induction xs generalizing ys segments with
  | nil =>
    obtain rfl : ys = [] := List.length_eq_zero_iff.mp hl.symm
    exact Datum.sameList_iff.mpr .nil
  | cons x xs ih =>
    cases ys with
    | nil => simp at hl
    | cons y ys =>
      obtain ⟨front, hf, hv⟩ := bind_eq_ok.mp hv
      obtain ⟨rest, hr, hv⟩ := bind_eq_ok.mp hv
      obtain ⟨front', hf', hw⟩ := bind_eq_ok.mp hw
      obtain ⟨rest', hr', hw⟩ := bind_eq_ok.mp hw
      obtain ⟨rfl, rfl⟩ := append_inj_of_encode hd hf hf' (Except.ok.inj (hv.trans hw.symm))
      have hxy := he x y front (hx x (by simp)) (hy y (by simp)) hf hf'
      have hxs := ih (Nat.succ.inj hl) (fun z hz => hx z (List.mem_cons_of_mem _ hz))
        (fun z hz => hy z (List.mem_cons_of_mem _ hz)) hr hr'
      exact Datum.sameList_iff.mpr (.cons hxy (Datum.sameList_iff.mp hxs))

/-- Each field has a value in both dicts, and the two are equal. -/
theorem same_of_encodeFields [Memory] {fs : List (String × Descriptor)} {es es' : List (Datum × Datum)}
    (hd : ∀ f ∈ fs, f.2.WellFormed) (he : ∀ f ∈ fs, f.2.Separates)
    (hx : ∀ f ∈ fs, ∀ v, (Datum.text f.1, v) ∈ es → f.2.HasShape v)
    (hy : ∀ f ∈ fs, ∀ v, (Datum.text f.1, v) ∈ es' → f.2.HasShape v)
    (hv : encodeFields fs es = .ok segments) (hw : encodeFields fs es' = .ok segments) :
    ∀ f ∈ fs, ∃ v w, Datum.find? f.1 es = some v ∧ (Datum.text f.1, w) ∈ es' ∧ v.same w = true := by
  induction fs generalizing segments with
  | nil => simp
  | cons f fs ih =>
    unfold encodeFields at hv hw
    split at hv
    · simp at hv
    split at hw
    · simp at hw
    next x hfx _ y hfy =>
    obtain ⟨front, hf, hv⟩ := bind_eq_ok.mp hv
    obtain ⟨rest, hr, hv⟩ := bind_eq_ok.mp hv
    obtain ⟨front', hf', hw⟩ := bind_eq_ok.mp hw
    obtain ⟨rest', hr', hw⟩ := bind_eq_ok.mp hw
    obtain ⟨rfl, rfl⟩ := append_inj_of_encode (hd f (by simp)) hf hf' (Except.ok.inj (hv.trans hw.symm))
    intro g hg
    rcases List.mem_cons.mp hg with rfl | hg
    · have hym := Datum.mem_of_find? hfy
      have hxy := he g (by simp) x y front (hx g (by simp) x (Datum.mem_of_find? hfx))
        (hy g (by simp) y hym) hf hf'
      exact ⟨x, y, hfx, hym, hxy⟩
    · exact ih (fun f hf => hd f (List.mem_cons_of_mem _ hf)) (fun f hf => he f (List.mem_cons_of_mem _ hf))
        (fun f hf => hx f (List.mem_cons_of_mem _ hf)) (fun f hf => hy f (List.mem_cons_of_mem _ hf))
        hr hr' g hg

/-- Dicts with the names of the fields as their keys are equal where the fields are. -/
theorem same_dict {names : List String} {es es' : List (Datum × Datum)} (hn : names.Nodup)
    (hk : (es.map Prod.fst).Nodup) (hk' : (es'.map Prod.fst).Nodup)
    (hes : namesMatch names (es.map Prod.fst) = true) (hes' : namesMatch names (es'.map Prod.fst) = true)
    (h : ∀ k ∈ names, ∃ v w, Datum.find? k es = some v ∧ (Datum.text k, w) ∈ es' ∧ v.same w = true) :
    (Datum.dict es).same (.dict es') = true := by
  have hperm := perm_of_namesMatch hn hk hes
  have hl : es.length = es'.length := by
    have hh := hperm.trans (perm_of_namesMatch hn hk' hes').symm
    simpa using hh.length_eq
  have hentries := sameEntries_of_perm hk hperm h
  simp [Datum.same, hl, hentries]

section

variable [Memory]

theorem separates (hd : d.WellFormed) : d.Separates := by
  induction d with
  | uint max width => exact fun v w segments _ _ hv hw => same_of_encodeInteger hv hw
  | enum max width cls => exact fun v w segments _ _ hv hw => same_of_encodeInteger hv hw
  | bytes n =>
    intro v w segments hsv hsw hv hw
    obtain ⟨b, hb, hbl, -, rfl⟩ := encodeBytes_eq_ok hv
    obtain ⟨c, hc, hcl, -, he⟩ := encodeBytes_eq_ok hw
    -- Zeros are stripped from both, but the descriptor knows the length.
    obtain rfl := Bytes.eq_of_stripZeros_eq hbl hcl (List.singleton_inj.mp he)
    cases hsv
    cases hsw
    cases hb
    cases hc
    simp [Datum.same, Datum.bytes?]
  | bool =>
    intro v w segments _ _ hv hw
    obtain ⟨b, rfl, rfl⟩ := encode_bool_eq_ok hv
    obtain ⟨c, rfl, he⟩ := encode_bool_eq_ok hw
    obtain rfl := flag_injective (List.singleton_inj.mp he)
    exact Datum.same_bool b
  | text =>
    intro v w segments _ _ hv hw
    obtain ⟨s, rfl, rfl⟩ := encode_text_eq_ok hv
    obtain ⟨t, rfl, he⟩ := encode_text_eq_ok hw
    obtain rfl := Utf8.encode_injective (List.singleton_inj.mp he)
    exact Datum.same_text.mpr rfl
  | field =>
    intro v w segments _ _ hv hw
    obtain ⟨m, hm, -, rfl⟩ := encodeField_eq_ok hv
    obtain ⟨n, hn, -, he⟩ := encodeField_eq_ok hw
    exact same_of_segment hm hn he
  | vector n e ih =>
    intro v w segments hsv hsw hv hw
    obtain ⟨xs, hx, hxl, hxs⟩ := encode_vector_eq_ok hv
    obtain ⟨ys, hy, hyl, hys⟩ := encode_vector_eq_ok hw
    cases hsv with
    | vector hsx =>
      cases hsw with
      | vector hsy =>
        cases hx
        cases hy
        exact sameList_of_encodeEach (e := e) hd (ih hd) (hxl.trans hyl.symm) hsx hsy hxs hys
  | maybe p ih =>
    intro v w segments hsv hsw hv hw
    obtain ⟨a, x, front, rfl, hx, -, rfl⟩ := encode_maybe_eq_ok hv
    obtain ⟨b, y, front', rfl, hy, -, he⟩ := encode_maybe_eq_ok hw
    obtain ⟨hflag, rfl⟩ := List.cons.inj he
    cases hsv with
    | maybe a hsx =>
      cases hsw with
      | maybe b hsy =>
        obtain rfl : a = b := flag_injective hflag
        exact Datum.same_maybe a (ih hd x y front hsx hsy hx hy)
  | either l r ihl ihr =>
    intro v w segments hsv hsw hv hw
    obtain ⟨a, x, y, left, right, rfl, hx, hy, -, -, rfl⟩ := encode_either_eq_ok hv
    obtain ⟨b, x', y', left', right', rfl, hx', hy', -, -, he⟩ := encode_either_eq_ok hw
    obtain ⟨hflag, he⟩ := List.cons.inj he
    obtain ⟨rfl, rfl⟩ := append_inj_of_encode hd.1 hx hx' he
    cases hsv with
    | either a hsx hsy =>
      cases hsw with
      | either b hsx' hsy' =>
        obtain rfl : a = b := flag_injective hflag
        exact Datum.same_either a (ihl hd.1 x x' left hsx hsx' hx hx')
          (ihr hd.2 y y' right hsy hsy' hy hy')
  | struct name fs ih =>
    intro v w segments hsv hsw hv hw
    obtain ⟨es, rfl, hes, hv⟩ := encode_struct_eq_ok hv
    obtain ⟨es', rfl, hes', hw⟩ := encode_struct_eq_ok hw
    have hfs := fieldsWellFormed_iff.mp hd.2
    cases hsv with
    | struct hk hx =>
      cases hsw with
      | struct hk' hy =>
        have hall := same_of_encodeFields hfs (fun f hf => ih f hf (hfs f hf)) hx hy hv hw
        refine same_dict hd.1 hk hk' hes hes' fun k hkn => ?_
        obtain ⟨f, hf, rfl⟩ := List.mem_map.mp hkn
        exact hall f hf

/-- What is laid out of a value are its segments. -/
theorem encode_of_aligned {a : AlignedValue} (hd : d.WellFormed) (h : d.aligned v = .ok a) :
    d.encode v = .ok a.segments ∧ a.alignment = d.alignment := by
  obtain ⟨segments, he, -⟩ := bind_eq_ok.mp h
  obtain ⟨b, hb, rfl, halign⟩ := aligned_of_encode hd he
  cases h.symm.trans hb
  exact ⟨he, halign⟩

theorem eq_sha256_of_persistentHash {a : AlignedValue} {digest : Bytes} (ha : d.aligned v = .ok a)
    (h : d.persistentHash v = .ok digest) : digest = sha256 a.binary := by
  rw [persistentHash, ha, ok_bind] at h
  obtain ⟨b, hb, h⟩ := bind_eq_ok.mp h
  obtain ⟨_, -, hb⟩ := bind_eq_ok.mp hb
  cases hb
  exact (Except.ok.inj h).symm

/-- With the atoms known, no binary form is the beginning of another one. So accepted values of the
documented shape that have the same binary form are equal, and where values that are not equal have the same
hash, two byte strings have it. -/
theorem binary_unambiguous :
    (∀ (a b : AlignedValue) (x y : Bytes), a.alignment = b.alignment → a.binary ++ x = b.binary ++ y →
      a = b ∧ x = y) ∧
    ∀ (d : Descriptor) (v w : Datum) (a b : AlignedValue), d.WellFormed → d.HasShape v → d.HasShape w →
      d.aligned v = .ok a → d.aligned w = .ok b →
      (a.binary = b.binary → v.same w = true) ∧
        ∀ digest, d.persistentHash v = .ok digest → d.persistentHash w = .ok digest →
          v.same w = true ∨ (a.binary ≠ b.binary ∧ sha256 a.binary = digest ∧ sha256 b.binary = digest) := by
  refine ⟨fun a b x y => AlignedValue.binary_append_inj, fun d v w a b hd hv hw ha hb => ?_⟩
  have hsame : a.binary = b.binary → v.same w = true := by
    intro h
    obtain ⟨hev, hva⟩ := encode_of_aligned hd ha
    obtain ⟨hew, hwa⟩ := encode_of_aligned hd hb
    obtain rfl := AlignedValue.ext_of_binary (hva.trans hwa.symm) h
    exact separates hd v w a.segments hv hw hev hew
  refine ⟨hsame, fun digest hv hw => ?_⟩
  by_cases h : a.binary = b.binary
  · exact .inl (hsame h)
  · exact .inr ⟨h, (eq_sha256_of_persistentHash ha hv).symm, (eq_sha256_of_persistentHash hb hw).symm⟩

end

/-- A member stands for its ordinal, and the fields may come in any order. -/
theorem unambiguous_entry :
    let d : Descriptor := .struct "Entry" [("count", .uint 1000 2), ("note", .text)]
    let v : Datum := .dict [(.text "count", .int 256), (.text "note", .text "hi")]
    let w : Datum := .dict [(.text "note", .text "hi"), (.text "count", .member "Size" "large" 256)]
    d.WellFormed ∧ d.HasShape v ∧ d.HasShape w ∧
      ∃ a b, d.aligned v = .ok a ∧ d.aligned w = .ok b ∧ a.alignment = b.alignment ∧
        a.binary ++ [9] = b.binary ++ [9] ∧ a = b ∧ v.same w = true ∧
        ∃ digest, d.persistentHash v = .ok digest ∧ d.persistentHash w = .ok digest ∧
          (v.same w = true ∨ (a.binary ≠ b.binary ∧ sha256 a.binary = digest ∧ sha256 b.binary = digest)) := by
  intro d v w
  obtain ⟨hseam, hvalues⟩ := binary_unambiguous
  have htext : Utf8.encode "hi" = [0x68, 0x69] := by decide +kernel
  have hd : d.WellFormed := by
    simp [d, WellFormed, FieldsWellFormed, LittleEndian.fits_iff]
  have hv : d.HasShape v := by
    refine .struct (by simp) fun f hf x hx => ?_
    simp only [List.mem_cons, List.not_mem_nil, or_false] at hf
    rcases hf with rfl | rfl <;> simp at hx <;> subst hx
    · exact .uint rfl
    · exact .text "hi"
  have hw : d.HasShape w := by
    refine .struct (by simp) fun f hf x hx => ?_
    simp only [List.mem_cons, List.not_mem_nil, or_false] at hf
    rcases hf with rfl | rfl <;> simp at hx <;> subst hx
    · exact .uint rfl
    · exact .text "hi"
  have hcount : (uintName 1000).spell = .ok () := Label.spell_of_lt (by simp [uintName])
  have hev : d.encode v = .ok [[0, 1], [0x68, 0x69]] := by
    simp [d, v, encode, encodeFields, encodeInteger, namesMatch, Datum.find?, Datum.same, Datum.integer?,
      LittleEndian.ofNat, htext, hcount]
  have hew : d.encode w = .ok [[0, 1], [0x68, 0x69]] := by
    simp [d, w, encode, encodeFields, encodeInteger, namesMatch, Datum.find?, Datum.same, Datum.integer?,
      LittleEndian.ofNat, htext, hcount]
  obtain ⟨a, ha, hsa, haa⟩ := aligned_of_encode hd hev
  obtain ⟨b, hb, hsb, hab⟩ := aligned_of_encode hd hew
  have halign : a.alignment = b.alignment := haa.trans hab.symm
  have hbinary : a.binary = b.binary := by
    rw [a.binary_eq, b.binary_eq, halign, hsa, hsb]
  have hlength : a.binary.length ≤ Memory.available := by
    rw [a.binary_eq, haa, hsa]
    simp [d, alignment, fieldAlignment, Alignment.binary, Atom.binary, Atom.width?, leb128, Bytes.padTo,
      Bytes.zeros, Memory.available]
  have hhash := (persistentHash_of_aligned ha).1 hlength
  have hhash' := (persistentHash_of_aligned hb).1 (hbinary ▸ hlength)
  rw [← hbinary] at hhash'
  obtain ⟨hsame, hdigest⟩ := hvalues d v w a b hd hv hw ha hb
  have happend : a.binary ++ [9] = b.binary ++ [9] := congrArg (· ++ [9]) hbinary
  exact ⟨hd, hv, hw, a, b, ha, hb, halign, happend, (hseam a b [9] [9] halign happend).1, hsame hbinary,
    _, hhash, hhash', hdigest _ hhash hhash'⟩

end Descriptor

end AlignedLedger
