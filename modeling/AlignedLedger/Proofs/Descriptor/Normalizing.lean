import AlignedLedger.Proofs.Descriptor.Misreading
import AlignedLedger.Proofs.Descriptor.Names
import AlignedLedger.Proofs.Descriptor.Reencoding
import AlignedLedger.Proofs.Descriptor.Skipping
import AlignedLedger.Proofs.Descriptor.Width

/-! Reading brings segments into a normal form: what is read is written again without zeros at the end of
numbers, and with the placeholder in every slot that was passed over. Only a name that is too long stands in
the way of it. -/

namespace AlignedLedger.Descriptor

open SegmentReader

/-- The segments of the placeholder. -/
def blank [Memory] (d : Descriptor) : Except Fault (List Bytes) := do
  let v ← d.placeholder
  d.encode v

/-- The normal forms of `n` runs of segments, each `width` long. -/
def normalizeEach (n width : Nat) (normalize : List Bytes → Except Fault (List Bytes))
    (s : List Bytes) : Except Fault (List Bytes) :=
  match n with
  | 0 => .ok []
  | n + 1 => do
    let front ← normalize s
    let back ← normalizeEach n width normalize (s.drop width)
    pure (front ++ back)

def normalizeFlag (s : List Bytes) : List Bytes := List.zipWith Atom.normalize [.bytes 1] s

mutual

/-- The segments with each one that is read in the form its slot keeps, and the placeholder in the slots
that are passed over. -/
def normalize [Memory] : Descriptor → List Bytes → Except Fault (List Bytes)
  | vector n e, s => normalizeEach n e.alignment.length e.normalize s
  | maybe p, s => do
    let payload ← (if flag? (s.map .bytes) = some false then p.blank else p.normalize (s.drop 1))
    pure (normalizeFlag s ++ payload)
  | either l r, s => do
    let left ← (if flag? (s.map .bytes) = some false then l.blank else l.normalize (s.drop 1))
    let right ← (if flag? (s.map .bytes) = some true then r.blank
      else r.normalize ((s.drop 1).drop l.alignment.length))
    pure (normalizeFlag s ++ (left ++ right))
  | struct _ fs, s => normalizeFields fs s
  | d, s => .ok (List.zipWith Atom.normalize d.alignment s)

def normalizeFields [Memory] : List (String × Descriptor) → List Bytes → Except Fault (List Bytes)
  | [], _ => .ok []
  | (_, d) :: fs, s => do
    let front ← d.normalize s
    let back ← normalizeFields fs (s.drop d.alignment.length)
    pure (front ++ back)

end

section Placeholder

variable {d : Descriptor} {v : Datum}

theorem encodeFields_cons_of_not_mem [Memory] {fs : List (String × Descriptor)} {k : String}
    {es : List (Datum × Datum)} (hk : k ∉ fs.map Prod.fst) :
    encodeFields fs ((.text k, v) :: es) = encodeFields fs es := by
  induction fs with
  | nil => rfl
  | cons f fs ih =>
    rw [List.map_cons, List.mem_cons, not_or] at hk
    have hne : Datum.text k ≠ .text f.1 := fun he => hk.1 (Datum.text.inj he)
    rw [encodeFields, encodeFields, Datum.find?_cons_of_ne hne, ih hk.2]

/-- The field in front is written from the entry in front, the others from the others. -/
theorem encodeFields_cons [Memory] {fs : List (String × Descriptor)} {f : String × Descriptor}
    {es : List (Datum × Datum)} (hk : f.1 ∉ fs.map Prod.fst) :
    encodeFields (f :: fs) ((.text f.1, v) :: es) = (do
      let front ← f.2.encode v
      let rest ← encodeFields fs es
      pure (front ++ rest)) := by
  rw [encodeFields, Datum.find?, if_pos rfl, encodeFields_cons_of_not_mem hk]

/-- The entry in front is that of the field in front, the others are those of the others. -/
theorem nameable_entries {fs : List (String × Descriptor)} {f : String × Descriptor}
    {es : List (Datum × Datum)} (hk : f.1 ∉ fs.map Prod.fst)
    (h : ∀ g ∈ f :: fs, ∀ w, Datum.find? g.1 ((.text f.1, v) :: es) = some w → g.2.Nameable w) :
    f.2.Nameable v ∧ ∀ g ∈ fs, ∀ w, Datum.find? g.1 es = some w → g.2.Nameable w := by
  obtain ⟨hf, hfs⟩ := List.forall_mem_cons.mp h
  refine ⟨hf v (if_pos rfl), fun g hg w hw => hfs g hg w ?_⟩
  have hne : Datum.text f.1 ≠ .text g.1 := by
    intro he
    rw [Datum.text.inj he] at hk
    exact hk (List.mem_map_of_mem hg)
  rw [Datum.find?_cons_of_ne hne, hw]

theorem exists_encode_fieldPlaceholders [Memory] {fs : List (String × Descriptor)} {es : List (Datum × Datum)}
    (hk : (fs.map Prod.fst).Nodup)
    (hf : ∀ f ∈ fs, ∀ v, f.2.placeholder = .ok v → f.2.Nameable v → ∃ t, f.2.encode v = .ok t)
    (hn : ∀ f ∈ fs, ∀ v, Datum.find? f.1 es = some v → f.2.Nameable v)
    (h : fieldPlaceholders fs = .ok es) : ∃ t, encodeFields fs es = .ok t := by
  induction fs generalizing es with
  | nil => exact ⟨[], rfl⟩
  | cons f fs ih =>
    obtain ⟨v, hv, h⟩ := bind_eq_ok.mp h
    obtain ⟨rest, hrest, h⟩ := bind_eq_ok.mp h
    cases h
    have hnodup := List.nodup_cons.mp hk
    obtain ⟨hnv, hnrest⟩ := nameable_entries hnodup.1 hn
    obtain ⟨front, hfront⟩ := hf f List.mem_cons_self v hv hnv
    obtain ⟨back, hback⟩ := ih hnodup.2 (fun g hg => hf g (List.mem_cons_of_mem _ hg)) hnrest hrest
    rw [encodeFields_cons hnodup.1, hfront, ok_bind, hback]
    exact ⟨front ++ back, rfl⟩

theorem length_of_repeatValue {n : Nat} {one : Except Fault Datum} {ys : List Datum}
    (h : repeatValue n one = .ok ys) : ys.length = n := by
  induction n generalizing ys with
  | zero =>
    cases h
    rfl
  | succ n ih =>
    obtain ⟨y, -, h⟩ := bind_eq_ok.mp h
    obtain ⟨rest, hrest, h⟩ := bind_eq_ok.mp h
    cases h
    rw [List.length_cons, ih hrest]

variable [Memory]

/-- Every placeholder can be written, unless a name stands in the way. -/
theorem exists_encode_placeholder (hd : d.WellFormed) (h : d.placeholder = .ok v) (hn : d.Nameable v) :
    ∃ t, d.encode v = .ok t := by
  induction d generalizing v with
  | uint max width =>
    cases h
    exact ⟨_, encodeInteger_of_isWritable (nameable_uint.mp hn) rfl (Nat.zero_le max)⟩
  | enum max width cls =>
    have hv : v.integer? = some ((0 : Nat) : Int) := by
      cases cls with
      | none =>
        cases h
        rfl
      | some c => exact integer?_of_member? (placeholder_member.mp h)
    exact ⟨_, encodeInteger_of_isWritable (nameable_enum.mp hn) hv (Nat.zero_le max)⟩
  | bytes n =>
    obtain ⟨_, hm, rfl⟩ := map_eq_ok.mp h
    have hlength : (Bytes.zeros n).length = n := List.length_replicate
    rw [encode, encodeBytes, Datum.bytes?]
    dsimp only
    rw [if_pos hlength, hm]
    exact ⟨_, rfl⟩
  | bool =>
    cases h
    exact ⟨_, rfl⟩
  | text =>
    cases h
    exact ⟨_, rfl⟩
  | field =>
    cases h
    exact ⟨_, rfl⟩
  | vector n e ih =>
    obtain ⟨ys, hys, rfl⟩ := map_eq_ok.mp h
    have hlength := length_of_repeatValue hys
    have heach : ∀ y ∈ ys, ∃ t, e.encode y = .ok t := fun y hy =>
      ih hd (repeatValue_eq_ok hys y hy) ((nameable_vector rfl).mp hn y hy)
    rw [encode, vectorItems?]
    dsimp only
    rw [if_pos hlength, encodeEach_eq_mapM, exists_map, exists_mapM_ok]
    exact heach
  | maybe p ih =>
    obtain ⟨y, hy, rfl⟩ := map_eq_ok.mp h
    obtain ⟨hname, hny⟩ := nameable_maybe.mp hn
    obtain ⟨t, ht⟩ := ih hd hy hny
    exact ⟨_, encode_maybe ht fun _ => ⟨hname rfl, hy⟩⟩
  | either l r ihl ihr =>
    obtain ⟨x, hx, h⟩ := bind_eq_ok.mp h
    obtain ⟨y, hy, h⟩ := bind_eq_ok.mp h
    cases h
    obtain ⟨hname, hnx, hny⟩ := nameable_either.mp hn
    obtain ⟨left, hl⟩ := ihl hd.1 hx hnx
    obtain ⟨right, hr⟩ := ihr hd.2 hy hny
    exact ⟨_, encode_either hname hl hr (fun _ => hy) (by simp)⟩
  | struct name fs ih =>
    obtain ⟨es, hes, rfl⟩ := map_eq_ok.mp h
    have hkeys : es.map Prod.fst = (fs.map Prod.fst).map .text := by
      rw [(fieldPlaceholders_eq_ok hes).1, List.map_map]
      rfl
    rw [encode, if_pos (namesMatch_of_eq hkeys)]
    exact exists_encode_fieldPlaceholders hd.1
      (fun f hf v hv => ih f hf (fieldsWellFormed_iff.mp hd.2 f hf) hv) (nameable_struct.mp hn) hes

theorem exists_blank (hd : d.WellFormed) (h : d.placeholder = .ok v) (hn : d.Nameable v) :
    ∃ t, d.blank = .ok t ∧ d.encode v = .ok t := by
  obtain ⟨t, ht⟩ := exists_encode_placeholder hd h hn
  refine ⟨t, ?_, ht⟩
  rw [blank, h, ok_bind, ht]

end Placeholder

section Reading

variable {a : Atom} {s : List Bytes} {rest : List Datum}

theorem take_eq_ok {c : Bytes} (h : take a (s.map .bytes) = .ok c rest) :
    ∃ b s', s = b :: s' ∧ a.normalize b = c ∧ a.Holds c ∧ rest = s'.map .bytes := by
  cases s with
  | nil => cases h
  | cons b s' =>
    rw [List.map_cons, take] at h
    cases hb : a.checkDatum (.bytes b) with
    | error e =>
      rw [hb] at h
      cases h
    | ok c' =>
      rw [hb] at h
      cases h
      obtain ⟨slot, hslot, rfl⟩ := map_eq_ok.mp hb
      obtain ⟨rfl, hc⟩ := Slot.ofSegment_eq_ok.mp hslot
      exact ⟨b, s', rfl, hc.symm, slot.holds, rfl⟩

/-- A slot with a width holds its number in the only form that has no zeros at the end. -/
theorem takeNat_eq_ok {n width : Nat} (ha : a.width? = some width)
    (h : takeNat a (s.map .bytes) = .ok n rest) :
    ∃ b s', s = b :: s' ∧ a.normalize b = LittleEndian.ofNat n ∧ a.Holds (LittleEndian.ofNat n) := by
  obtain ⟨c, r, hc, h⟩ := bind_run_eq_ok.mp h
  cases h
  obtain ⟨b, s', hs, hb, hholds, -⟩ := take_eq_ok hc
  have htrimmed : c.Trimmed := by
    rw [Atom.Holds, ha] at hholds
    exact hholds.2
  rw [LittleEndian.ofNat_toNat htrimmed]
  exact ⟨b, s', hs, hb, hholds⟩

theorem readRange_again {name : Label} {max width n : Nat}
    (h : readRange name max width (s.map .bytes) = .ok n rest) :
    ∃ b s', s = b :: s' ∧ (Atom.bytes width).normalize b = LittleEndian.ofNat n ∧ n ≤ max ∧
      ∀ rest, readRange name max width (.bytes (LittleEndian.ofNat n) :: rest) = .ok n rest := by
  obtain ⟨hn, hmax⟩ := readRange_eq_ok.mp h
  obtain ⟨b, s', hs, hb, hholds⟩ := takeNat_eq_ok rfl hn
  exact ⟨b, s', hs, hb, hmax, fun rest => readRange_eq_ok.mpr ⟨takeNat_of_holds hholds rest, hmax⟩⟩

theorem readBool_eq_ok {b : Bool} (h : readBool (s.map .bytes) = .ok b rest) :
    ∃ x s', s = x :: s' ∧ (Atom.bytes 1).normalize x = flag b ∧ rest = s'.map .bytes := by
  obtain ⟨c, r, hc, h⟩ := bind_run_eq_ok.mp h
  obtain ⟨x, s', hs, hx, -, rfl⟩ := take_eq_ok hc
  have hflag : c = flag b ∧ rest = s'.map .bytes := by
    split at h
    · cases h
      exact ⟨‹c = []›, rfl⟩
    · split at h
      · cases h
        exact ⟨‹c = [1]›, rfl⟩
      · cases h
  exact ⟨x, s', hs, hx.trans hflag.1, hflag.2⟩

theorem flag?_of_readBool {b : Bool} {segments : List Datum} (h : readBool segments = .ok b rest) :
    flag? segments = some b := run'_of_ok h

end Reading

/-- The value is written as these segments, which are the normal form of the others, and they are read as
the value again, whatever follows. -/
structure Settles [Memory] (d : Descriptor) (s : List Bytes) (v : Datum) (t : List Bytes) : Prop where
  normalize_eq : d.normalize s = .ok t
  encode_eq : d.encode v = .ok t
  read_eq : ∀ rest, d.read (t.map .bytes ++ rest) = .ok v rest

namespace Settles

variable {d : Descriptor} {s : List Bytes} {v : Datum} {b c : Bytes}

/-- One slot, which is read: the segment is kept as the slot keeps it. -/
theorem ofSlot [Memory] {a : Atom} (hslot : d.normalize (b :: s) = .ok [a.normalize b]) (hb : a.normalize b = c)
    (he : d.encode v = .ok [c]) (hr : ∀ rest, d.read (.bytes c :: rest) = .ok v rest) :
    d.Settles (b :: s) v [c] := ⟨hb ▸ hslot, he, hr⟩

end Settles

section Slots

variable [Memory]

variable {s : List Bytes} {v : Datum} {rest : List Datum}

theorem settles_uint {max width : Nat} (h : (uint max width).read (s.map .bytes) = .ok v rest)
    (hname : (uintName max).isWritable = true) : ∃ t, (uint max width).Settles s v t := by
  obtain ⟨n, _, hn, ⟨⟩⟩ := bind_run_eq_ok.mp h
  obtain ⟨b, s', rfl, hb, hmax, hagain⟩ := readRange_again hn
  exact ⟨_, .ofSlot rfl hb (encodeInteger_of_isWritable hname rfl hmax)
    fun rest => (bind_run_of_ok (hagain rest)).trans rfl⟩

theorem settles_enum {max width : Nat} {cls : Option EnumClass}
    (h : (enum max width cls).read (s.map .bytes) = .ok v rest)
    (hname : (enumName max cls).isWritable = true) : ∃ t, (enum max width cls).Settles s v t := by
  obtain ⟨n, _, hn, hv⟩ := bind_run_eq_ok.mp h
  obtain ⟨b, s', rfl, hb, hmax, hagain⟩ := readRange_again hn
  cases cls with
  | none =>
    cases hv
    exact ⟨_, .ofSlot rfl hb (encodeInteger_of_isWritable hname rfl hmax)
      fun rest => (bind_run_of_ok (hagain rest)).trans rfl⟩
  | some c =>
    cases hm : c.member? n with
    | none =>
      simp only [hm] at hv
      cases hv
    | some m =>
      simp only [hm] at hv
      cases hv
      have hencode := encodeInteger_of_isWritable hname (integer?_of_member? hm) hmax
      refine ⟨_, .ofSlot rfl hb hencode fun rest => ?_⟩
      refine (bind_run_of_ok (hagain rest)).trans ?_
      simp only [hm]
      rfl

theorem settles_bytes {n : Nat} (h : (bytes n).read (s.map .bytes) = .ok v rest) :
    ∃ t, (bytes n).Settles s v t := by
  obtain ⟨c, _, hc, hv⟩ := bind_run_eq_ok.mp h
  obtain ⟨⟨⟩, hm, ⟨⟩⟩ := bind_ofExcept_run.mp hv
  obtain ⟨b, s', rfl, hb, hholds, -⟩ := take_eq_ok hc
  have hlength : (c.padTo n).length = n := (Bytes.length_padTo n c).trans (Nat.max_eq_left hholds.1)
  have hstrip : (c.padTo n).stripZeros = c := Bytes.stripZeros_padTo hholds.2 n
  have hagain := read_bytes hlength hm
  rw [hstrip] at hagain
  refine ⟨_, .ofSlot rfl hb ?_ hagain⟩
  rw [encode, encodeBytes, Datum.bytes?]
  dsimp only
  rw [if_pos hlength, hm, hstrip]
  rfl

theorem settles_bool (h : bool.read (s.map .bytes) = .ok v rest) : ∃ t, bool.Settles s v t := by
  obtain ⟨b, _, hb, ⟨⟩⟩ := bind_run_eq_ok.mp h
  obtain ⟨x, s', rfl, hx, -⟩ := readBool_eq_ok hb
  exact ⟨_, .ofSlot rfl hx rfl fun rest => (bind_run_of_ok (readBool_flag b rest)).trans rfl⟩

theorem settles_text (h : text.read (s.map .bytes) = .ok v rest) : ∃ t, text.Settles s v t := by
  obtain ⟨c, _, hc, hv⟩ := bind_run_eq_ok.mp h
  obtain ⟨b, s', rfl, hb, -, -⟩ := take_eq_ok hc
  cases hs : Utf8.decode? c with
  | none =>
    simp only [hs] at hv
    cases hv
  | some x =>
    simp only [hs] at hv
    cases hv
    obtain rfl := Utf8.encode_of_decode? hs
    exact ⟨_, .ofSlot rfl hb rfl (readText_encode x)⟩

theorem settles_field (h : field.read (s.map .bytes) = .ok v rest) : ∃ t, field.Settles s v t := by
  obtain ⟨n, _, hn, ⟨⟩⟩ := bind_run_eq_ok.mp h
  obtain ⟨b, s', rfl, hb, hholds⟩ := takeNat_eq_ok rfl hn
  have hlt : n < 256 ^ 32 := LittleEndian.fits_iff.mp hholds.1
  have hbound : 0 ≤ (n : Int) ∧ (n : Int) < (1 <<< 256 : Nat) := by
    rw [Nat.one_shiftLeft]
    omega
  refine ⟨_, .ofSlot rfl hb ?_ fun rest => (bind_run_of_ok (takeNat_of_holds hholds rest)).trans rfl⟩
  simp only [encode, encodeField, Datum.integer?, if_pos hbound, Int.toNat_natCast]

end Slots

section Parts

variable {d p l r : Descriptor} {s : List Bytes} {v : Datum} {rest : List Datum}

/-- What is read of the descriptor is brought into normal form, unless a name stands in the way. -/
def ReadsSettled [Memory] (d : Descriptor) : Prop :=
  ∀ (s : List Bytes) (v : Datum) (rest : List Datum), d.read (s.map .bytes) = .ok v rest → d.Nameable v →
    ∃ t, d.Settles s v t

theorem left_of_read [Memory] (h : d.read (s.map .bytes) = .ok v rest) :
    rest = (s.drop d.alignment.length).map .bytes := by
  rw [rest_of_read h, List.map_drop]

theorem left_of_skip (h : d.skip (s.map .bytes) = .ok () rest) :
    rest = (s.drop d.alignment.length).map .bytes := by
  have halike := d.skip_alike (Eq.refl (s.map Datum.bytes).length)
  rw [ReadAlike, h] at halike
  rw [halike.2.1, List.map_drop]

variable [Memory]

theorem times_settles {n : Nat} {vs : List Datum} (hd : d.ReadsSettled) (hn : ∀ w ∈ vs, d.Nameable w)
    (h : times n d.read (s.map .bytes) = .ok vs rest) :
    vs.length = n ∧ ∃ t, normalizeEach n d.alignment.length d.normalize s = .ok t ∧
      encodeEach d.encode vs = .ok t ∧ ∀ rest, times n d.read (t.map .bytes ++ rest) = .ok vs rest := by
  induction n generalizing s vs with
  | zero =>
    cases h
    exact ⟨rfl, [], rfl, rfl, fun _ => rfl⟩
  | succ n ih =>
    obtain ⟨v, left, hv, h⟩ := bind_run_eq_ok.mp h
    obtain ⟨vs, _, hvs, ⟨⟩⟩ := bind_run_eq_ok.mp h
    obtain ⟨hnv, hnvs⟩ := List.forall_mem_cons.mp hn
    obtain ⟨front, hfront⟩ := hd s v left hv hnv
    rw [left_of_read hv] at hvs
    obtain ⟨hlength, back, hback, hencode, hread⟩ := ih hnvs hvs
    refine ⟨by rw [List.length_cons, hlength], front ++ back, ?_, ?_, fun rest => ?_⟩
    · rw [normalizeEach, hfront.normalize_eq, ok_bind, hback]
      rfl
    · rw [encodeEach, hfront.encode_eq, ok_bind, hencode]
      rfl
    · rw [List.map_append, List.append_assoc, times, bind_run_of_ok (hfront.read_eq _),
        bind_run_of_ok (hread rest)]
      rfl

theorem readFields_settles {fs : List (String × Descriptor)} {es : List (Datum × Datum)}
    (hk : (fs.map Prod.fst).Nodup) (hf : ∀ f ∈ fs, f.2.ReadsSettled)
    (hn : ∀ f ∈ fs, ∀ v, Datum.find? f.1 es = some v → f.2.Nameable v)
    (h : readFields fs (s.map .bytes) = .ok es rest) :
    es.map Prod.fst = (fs.map Prod.fst).map .text ∧ ∃ t, normalizeFields fs s = .ok t ∧
      encodeFields fs es = .ok t ∧ ∀ rest, readFields fs (t.map .bytes ++ rest) = .ok es rest := by
  induction fs generalizing s es with
  | nil =>
    cases h
    exact ⟨rfl, [], rfl, rfl, fun _ => rfl⟩
  | cons f fs ih =>
    obtain ⟨v, left, hv, h⟩ := bind_run_eq_ok.mp h
    obtain ⟨es, _, hes, ⟨⟩⟩ := bind_run_eq_ok.mp h
    have hnodup := List.nodup_cons.mp hk
    obtain ⟨hnv, hnes⟩ := nameable_entries hnodup.1 hn
    obtain ⟨front, hfront⟩ := hf f List.mem_cons_self s v left hv hnv
    rw [left_of_read hv] at hes
    obtain ⟨hkeys, back, hback, hencode, hread⟩ :=
      ih hnodup.2 (fun g hg => hf g (List.mem_cons_of_mem _ hg)) hnes hes
    refine ⟨by rw [List.map_cons, hkeys, List.map_cons, List.map_cons], front ++ back, ?_, ?_, fun rest => ?_⟩
    · rw [normalizeFields, hfront.normalize_eq, ok_bind, hback]
      rfl
    · rw [encodeFields_cons hnodup.1, hfront.encode_eq, ok_bind, hencode]
      rfl
    · rw [List.map_append, List.append_assoc, readFields, bind_run_of_ok (hfront.read_eq _),
        bind_run_of_ok (hread rest)]
      rfl

theorem normalize_maybe {x : Bytes} {b : Bool} {t : List Bytes}
    (hflag : flag? ((x :: s).map .bytes) = some b) (hx : (Atom.bytes 1).normalize x = flag b)
    (ht : (if b then p.normalize s else p.blank) = .ok t) :
    (maybe p).normalize (x :: s) = .ok (flag b :: t) := by
  rw [normalize, hflag]
  cases b with
  | true =>
    have hp : p.normalize ((x :: s).drop 1) = .ok t := ht
    rw [if_neg (by simp), hp, ← hx]
    rfl
  | false =>
    have hp : p.blank = .ok t := ht
    rw [if_pos rfl, hp, ← hx]
    rfl

theorem normalize_either {x : Bytes} {b : Bool} {left right : List Bytes}
    (hflag : flag? ((x :: s).map .bytes) = some b) (hx : (Atom.bytes 1).normalize x = flag b)
    (hl : (if b then l.normalize s else l.blank) = .ok left)
    (hr : (if b then r.blank else r.normalize (s.drop l.alignment.length)) = .ok right) :
    (either l r).normalize (x :: s) = .ok (flag b :: (left ++ right)) := by
  rw [normalize, hflag]
  cases b with
  | true =>
    have hl' : l.normalize ((x :: s).drop 1) = .ok left := hl
    have hr' : r.blank = .ok right := hr
    rw [if_neg (by simp), if_pos rfl, hl', hr', ← hx]
    rfl
  | false =>
    have hl' : l.blank = .ok left := hl
    have hr' : r.normalize (((x :: s).drop 1).drop l.alignment.length) = .ok right := hr
    rw [if_pos rfl, if_neg (by simp), hl', hr', ← hx]
    rfl

theorem settles_maybe (hd : p.WellFormed) (hp : p.ReadsSettled) : (maybe p).ReadsSettled := by
  intro s v rest h hn
  obtain ⟨b, left, hb, h⟩ := bind_run_eq_ok.mp h
  have hflag := flag?_of_readBool hb
  obtain ⟨x, s, rfl, hx, rfl⟩ := readBool_eq_ok hb
  cases b with
  | true =>
    obtain ⟨w, _, hw, ⟨⟩⟩ := bind_run_eq_ok.mp h
    obtain ⟨t, ht⟩ := hp s w _ hw (nameable_maybe.mp hn).2
    refine ⟨flag true :: t, normalize_maybe hflag hx ht.normalize_eq,
      encode_maybe ht.encode_eq (by simp), fun rest => ?_⟩
    rw [List.map_cons, List.cons_append, read, bind_run_of_ok (readBool_flag _ _)]
    exact (bind_run_of_ok (ht.read_eq rest)).trans rfl
  | false =>
    obtain ⟨⟨⟩, _, -, h⟩ := bind_run_eq_ok.mp h
    obtain ⟨w, hw, ⟨⟩⟩ := bind_ofExcept_run.mp h
    obtain ⟨hname, hnw⟩ := nameable_maybe.mp hn
    obtain ⟨t, ht, hencode⟩ := exists_blank hd hw hnw
    refine ⟨flag false :: t, normalize_maybe hflag hx ht, encode_maybe hencode fun _ => ⟨hname rfl, hw⟩,
      fun rest => ?_⟩
    rw [List.map_cons, List.cons_append, read, bind_run_of_ok (readBool_flag _ _)]
    refine (bind_run_of_ok (skip_of_encode hd hencode rest)).trans ?_
    rw [hw]
    rfl

theorem settles_either (hdl : l.WellFormed) (hdr : r.WellFormed) (hl : l.ReadsSettled)
    (hr : r.ReadsSettled) : (either l r).ReadsSettled := by
  intro s v rest h hn
  obtain ⟨b, left, hb, h⟩ := bind_run_eq_ok.mp h
  have hflag := flag?_of_readBool hb
  obtain ⟨x, s, rfl, hx, rfl⟩ := readBool_eq_ok hb
  cases b with
  | true =>
    obtain ⟨w, _, hw, h⟩ := bind_run_eq_ok.mp h
    obtain ⟨⟨⟩, _, -, h⟩ := bind_run_eq_ok.mp h
    obtain ⟨z, hz, ⟨⟩⟩ := bind_ofExcept_run.mp h
    obtain ⟨hname, hnw, hnz⟩ := nameable_either.mp hn
    obtain ⟨t, ht⟩ := hl s w _ hw hnw
    obtain ⟨u, hu, hencode⟩ := exists_blank hdr hz hnz
    refine ⟨flag true :: (t ++ u), normalize_either hflag hx ht.normalize_eq hu,
      encode_either hname ht.encode_eq hencode (fun _ => hz) (by simp), fun rest => ?_⟩
    rw [List.map_cons, List.cons_append, List.map_append, List.append_assoc, read,
      bind_run_of_ok (readBool_flag _ _)]
    refine (bind_run_of_ok (ht.read_eq _)).trans ?_
    rw [bind_run_of_ok (skip_of_encode hdr hencode rest), hz]
    rfl
  | false =>
    obtain ⟨⟨⟩, between, hskip, h⟩ := bind_run_eq_ok.mp h
    obtain ⟨z, hz, h⟩ := bind_ofExcept_run.mp h
    obtain ⟨w, _, hw, ⟨⟩⟩ := bind_run_eq_ok.mp h
    rw [left_of_skip hskip] at hw
    obtain ⟨hname, hnz, hnw⟩ := nameable_either.mp hn
    obtain ⟨u, hu, hencode⟩ := exists_blank hdl hz hnz
    obtain ⟨t, ht⟩ := hr _ w _ hw hnw
    refine ⟨flag false :: (u ++ t), normalize_either hflag hx hu ht.normalize_eq,
      encode_either hname hencode ht.encode_eq (by simp) (fun _ => hz), fun rest => ?_⟩
    rw [List.map_cons, List.cons_append, List.map_append, List.append_assoc, read,
      bind_run_of_ok (readBool_flag _ _)]
    refine (bind_run_of_ok (skip_of_encode hdl hencode _)).trans ?_
    rw [hz]
    exact (bind_run_of_ok (ht.read_eq rest)).trans rfl

theorem readsSettled (hd : d.WellFormed) : d.ReadsSettled := by
  induction d with
  | uint max width => exact fun _ _ _ h hn => settles_uint h (nameable_uint.mp hn)
  | enum max width cls => exact fun _ _ _ h hn => settles_enum h (nameable_enum.mp hn)
  | bytes n => exact fun _ _ _ h _ => settles_bytes h
  | bool => exact fun _ _ _ h _ => settles_bool h
  | text => exact fun _ _ _ h _ => settles_text h
  | field => exact fun _ _ _ h _ => settles_field h
  | vector n e ih =>
    intro s v rest h hn
    obtain ⟨vs, _, hvs, ⟨⟩⟩ := bind_run_eq_ok.mp h
    obtain ⟨hlength, t, ht, hencode, hread⟩ := times_settles (ih hd) ((nameable_vector rfl).mp hn) hvs
    refine ⟨t, ht, ?_, fun rest => (bind_run_of_ok (hread rest)).trans rfl⟩
    simp only [encode, vectorItems?, if_pos hlength, hencode]
  | maybe p ih => exact settles_maybe hd (ih hd)
  | either l r ihl ihr => exact settles_either hd.1 hd.2 (ihl hd.1) (ihr hd.2)
  | struct name fs ih =>
    intro s v rest h hn
    obtain ⟨es, _, hes, ⟨⟩⟩ := bind_run_eq_ok.mp h
    have hfields : ∀ f ∈ fs, f.2.ReadsSettled := fun f hf => ih f hf (fieldsWellFormed_iff.mp hd.2 f hf)
    obtain ⟨hkeys, t, ht, hencode, hread⟩ := readFields_settles hd.1 hfields (nameable_struct.mp hn) hes
    refine ⟨t, ht, ?_, fun rest => (bind_run_of_ok (hread rest)).trans rfl⟩
    rw [encode, if_pos (namesMatch_of_eq hkeys), hencode]

end Parts

/-- What has been decoded is written again, unless a name it calls for is too long, and then as the normal
form of the segments it was decoded from. -/
theorem decode_normalizes [Memory] {d : Descriptor} (hd : d.WellFormed) {s : List Bytes} {v : Datum}
    (h : d.decode s = .ok v) :
    ((∃ t, d.encode v = .ok t) ↔ d.Nameable v) ∧
      ∀ t, d.encode v = .ok t → d.decode t = .ok v ∧ d.normalize s = .ok t := by
  obtain ⟨rest, hread⟩ : ∃ rest, d.read (s.map .bytes) = .ok v rest := by
    unfold decode decodeData at h
    split at h
    · cases h
      exact ⟨[], ‹_›⟩
    · cases h
    · cases h
  have hsettles := readsSettled hd s v rest hread
  constructor
  · constructor
    · rintro ⟨t, ht⟩
      exact nameable_of_encode ht
    · intro hn
      obtain ⟨t, ht⟩ := hsettles hn
      exact ⟨t, ht.encode_eq⟩
  · intro t hencode
    obtain ⟨t', ht⟩ := hsettles (nameable_of_encode hencode)
    cases hencode.symm.trans ht.encode_eq
    have hagain := ht.read_eq []
    rw [List.append_nil] at hagain
    refine ⟨?_, ht.normalize_eq⟩
    simp only [decode, decodeData, hagain]

/-- Zeros at the end of numbers and of a text, and slots passed over whose placeholder is a choice of the
left side around an absent payload. -/
theorem decode_padded_entry :
    let d : Descriptor := .struct "Entry" [("color", color), ("note", .maybe (.either .text (.maybe .bool))),
      ("label", .text), ("digest", .bytes 4), ("side", .either .bool (.uint 9 1))]
    let s : List Bytes :=
      [[2, 0], [0], [255], [3], [9], [1, 1], [0x68, 0x69, 0], [7, 0, 0, 0, 0, 0], [], [77], [5, 0]]
    let t : List Bytes := [[2], [], [1], [], [], [], [0x68, 0x69, 0], [7], [], [], [5]]
    d.WellFormed ∧ ∃ v, d.decode s = .ok v ∧ d.encode v = .ok t ∧ d.decode t = .ok v ∧
      d.normalize s = .ok t := by
  intro d s t
  have hd : d.WellFormed := by
    simp [d, WellFormed, FieldsWellFormed, LittleEndian.fits_iff, wellFormed_color]
  obtain ⟨v, hv⟩ : ∃ v, d.decode s = .ok v := ⟨_, rfl⟩
  have hnormal : d.normalize s = .ok t := by rfl
  obtain ⟨-, hback⟩ := decode_normalizes hd hv
  obtain ⟨t', hencode⟩ : ∃ t', d.encode v = .ok t' := by
    cases hv
    exact exists_ok_of_toBool (by decide +kernel)
  obtain ⟨hagain, hnormal'⟩ := hback t' hencode
  cases hnormal.symm.trans hnormal'
  exact ⟨hd, v, hv, hencode, hagain, hnormal⟩

/-- A number is read under a bound of 4301 digits, and is not written again: the bound is in the name. -/
theorem long_bound_not_rewritten :
    let d : Descriptor := .uint (10 ^ 4300) 1786
    d.WellFormed ∧ d.decode [[]] = .ok (.int 0) ∧ d.encode (.int 0) = .error .badValue := by
  intro d
  have hfits : LittleEndian.Fits 1786 (10 ^ 4300) := LittleEndian.fits_iff.mpr (by decide +kernel)
  have hname : (uintName (10 ^ 4300)).isWritable = false := by
    rw [isWritable_uintName]
    decide +kernel
  refine ⟨And.intro (by decide) hfits, ?_, ?_⟩
  · have hread := read_uint hfits (Nat.zero_le _) []
    rw [LittleEndian.ofNat, if_pos rfl] at hread
    simp only [d, decode, decodeData, List.map_cons, List.map_nil, hread]
    rfl
  · rw [encode, encodeInteger, Label.spell, hname]
    rfl

end AlignedLedger.Descriptor
