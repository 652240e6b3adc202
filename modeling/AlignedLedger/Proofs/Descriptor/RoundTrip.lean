import AlignedLedger.Descriptor.Decode
import AlignedLedger.Proofs.Datum.Sameness
import AlignedLedger.Proofs.Descriptor.Layout
import Mathlib.Data.List.Nodup

/-! What a descriptor has written it reads back: the same value, up to the order of the fields in a
dict. -/

namespace AlignedLedger

namespace SegmentReader

theorem take_of_holds {a : Atom} {s : Bytes} (h : a.Holds s) (rest : List Datum) :
    take a (.bytes s :: rest) = .ok s rest := by
  simp only [take, Atom.checkDatum_of_holds h]

theorem skip_append (segments : List Bytes) (rest : List Datum) :
    skip segments.length (segments.map .bytes ++ rest) = .ok () rest := by
  simp [skip]

theorem takeNat_of_holds {a : Atom} {n : Nat} (h : a.Holds (LittleEndian.ofNat n))
    (rest : List Datum) : takeNat a (.bytes (LittleEndian.ofNat n) :: rest) = .ok n rest := by
  rw [takeNat, bind_run_of_ok (take_of_holds h rest), LittleEndian.toNat_ofNat]
  rfl

end SegmentReader

namespace Descriptor

open SegmentReader

theorem readRange_ofNat {name : Label} {max width n : Nat} (hw : LittleEndian.Fits width max)
    (hn : n ≤ max) (rest : List Datum) :
    readRange name max width (.bytes (LittleEndian.ofNat n) :: rest) = .ok n rest := by
  rw [readRange, bind_run_of_ok (takeNat_of_holds (holds_ofNat hw hn) rest), if_neg (by omega)]
  rfl

theorem readBool_flag (b : Bool) (rest : List Datum) :
    readBool (.bytes (flag b) :: rest) = .ok b rest := by
  rw [readBool, bind_run_of_ok (take_of_holds (holds_flag b) rest)]
  cases b <;> rfl

theorem readText_encode (s : String) (rest : List Datum) :
    readText (.bytes (Utf8.encode s) :: rest) = .ok (.text s) rest := by
  rw [readText, bind_run_of_ok (take_of_holds (Atom.holds_compress _) rest), Utf8.decode?_encode]
  rfl

theorem read_uint [Memory] {max width n : Nat} (hw : LittleEndian.Fits width max) (hn : n ≤ max)
    (rest : List Datum) :
    (uint max width).read (.bytes (LittleEndian.ofNat n) :: rest) = .ok (.int n) rest := by
  rw [read, bind_run_of_ok (readRange_ofNat hw hn rest)]
  rfl

theorem read_bytes [Memory] {n : Nat} {b : Bytes} (hb : b.length = n) (hm : Memory.request n = .ok ())
    (rest : List Datum) :
    (bytes n).read (.bytes b.stripZeros :: rest) = .ok (.bytes b) rest := by
  rw [read, bind_run_of_ok (take_of_holds (holds_stripZeros hb) rest), hm,
    bind_run_of_ok (ofExcept_ok () rest), Bytes.padTo_stripZeros hb]
  rfl

theorem read_enum [Memory] {max width n : Nat} {c : EnumClass} {v : Datum}
    (hw : LittleEndian.Fits width max) (hn : n ≤ max) (hv : c.member? n = some v)
    (rest : List Datum) :
    (enum max width (some c)).read (.bytes (LittleEndian.ofNat n) :: rest) = .ok v rest := by
  rw [read, readEnum, bind_run_of_ok (readRange_ofNat hw hn rest)]
  simp only [hv]
  rfl

theorem integer?_of_member? {c : EnumClass} {i : Int} {v : Datum} (h : c.member? i = some v) :
    v.integer? = some i := by
  obtain ⟨m, hm, rfl⟩ := Option.map_eq_some_iff.mp h
  have hi := List.find?_some hm
  simpa [Datum.integer?] using hi

theorem skip_of_encode [Memory] {d : Descriptor} (hd : d.WellFormed) {v : Datum} {segments : List Bytes}
    (h : d.encode v = .ok segments) (rest : List Datum) :
    d.skip (segments.map .bytes ++ rest) = .ok () rest := by
  rw [Descriptor.skip, (encode_holds hd h).length_eq]
  exact skip_append segments rest

/-- The descriptor gives back what was written, whatever segments follow. -/
def ReadsBack [Memory] (d : Descriptor) : Prop :=
  ∀ v segments rest, d.HasShape v → d.encode v = .ok segments →
    ∃ w, d.read (segments.map .bytes ++ rest) = .ok w rest ∧ v.same w = true

theorem times_readsBack [Memory] {e : Descriptor} (he : e.ReadsBack) {xs : List Datum}
    {segments : List Bytes} (rest : List Datum) (hx : ∀ x ∈ xs, e.HasShape x)
    (h : encodeEach e.encode xs = .ok segments) :
    ∃ ws, times xs.length e.read (segments.map .bytes ++ rest) = .ok ws rest ∧
      Datum.sameList xs ws = true := by
  induction xs generalizing segments with
  | nil =>
    cases h
    exact ⟨[], rfl, rfl⟩
  | cons x xs ih =>
    obtain ⟨front, hf, h⟩ := bind_eq_ok.mp h
    obtain ⟨back, hb, h⟩ := bind_eq_ok.mp h
    cases h
    obtain ⟨w, hw, hs⟩ := he x front (back.map .bytes ++ rest) (hx x (by simp)) hf
    obtain ⟨ws, hws, hss⟩ := ih (fun y hy => hx y (List.mem_cons_of_mem _ hy)) hb
    refine ⟨w :: ws, ?_, by simp [Datum.sameList, hs, hss]⟩
    rw [List.map_append, List.append_assoc, List.length_cons, times, bind_run_of_ok hw,
      bind_run_of_ok hws]
    rfl

/-- The fields come back in their own order, each with a value equal to the one in the dict. -/
theorem readFields_readsBack [Memory] {fs : List (String × Descriptor)} {es : List (Datum × Datum)}
    (hr : ∀ f ∈ fs, f.2.ReadsBack) (hv : ∀ f ∈ fs, ∀ v, (Datum.text f.1, v) ∈ es → f.2.HasShape v)
    {segments : List Bytes} (rest : List Datum) (h : encodeFields fs es = .ok segments) :
    ∃ ws, readFields fs (segments.map .bytes ++ rest) = .ok ws rest ∧
      ws.map Prod.fst = fs.map (fun f => Datum.text f.1) ∧
      ∀ f ∈ fs, ∃ v w, Datum.find? f.1 es = some v ∧ (Datum.text f.1, w) ∈ ws ∧
        v.same w = true := by
  induction fs generalizing segments with
  | nil =>
    cases h
    exact ⟨[], rfl, rfl, by simp⟩
  | cons f fs ih =>
    unfold encodeFields at h
    split at h
    · simp at h
    · next v hfind =>
      obtain ⟨front, hf, h⟩ := bind_eq_ok.mp h
      obtain ⟨back, hb, h⟩ := bind_eq_ok.mp h
      cases h
      obtain ⟨w, hw, hs⟩ := hr f (by simp) v front (back.map .bytes ++ rest)
        (hv f (by simp) v (Datum.mem_of_find? hfind)) hf
      obtain ⟨ws, hws, hk, hall⟩ := ih (fun g hg => hr g (List.mem_cons_of_mem _ hg))
        (fun g hg => hv g (List.mem_cons_of_mem _ hg)) hb
      refine ⟨(.text f.1, w) :: ws, ?_, by simp [hk], ?_⟩
      · rw [List.map_append, List.append_assoc, readFields, bind_run_of_ok hw, bind_run_of_ok hws]
        rfl
      · intro g hg
        rcases List.mem_cons.mp hg with rfl | hg
        · exact ⟨v, w, hfind, by simp, hs⟩
        · obtain ⟨v', w', hf', hm', hs'⟩ := hall g hg
          exact ⟨v', w', hf', List.mem_cons_of_mem _ hm', hs'⟩

theorem perm_of_namesMatch {names : List String} {keys : List Datum} (hn : names.Nodup)
    (hk : keys.Nodup) (h : namesMatch names keys = true) : keys.Perm (names.map .text) := by
  simp only [namesMatch, Bool.and_eq_true, List.all_eq_true, List.any_eq_true] at h
  have hi : Function.Injective Datum.text := fun _ _ he => Datum.text.inj he
  refine (List.perm_ext_iff_of_nodup hk (hn.map hi)).mpr fun d => ⟨fun hd => ?_, fun hd => ?_⟩
  · have hh := h.1 d hd
    split at hh
    · next s => exact List.mem_map_of_mem (by simpa using hh)
    · simp at hh
  · obtain ⟨s, hs, rfl⟩ := List.mem_map.mp hd
    obtain ⟨d, hd, he⟩ := h.2 s hs
    rwa [Datum.same_text.mp he] at hd

/-- Where the keys are the names of the fields, the entries have equal ones if the fields have. -/
theorem sameEntries_of_perm {names : List String} {es es' : List (Datum × Datum)}
    (hk : (es.map Prod.fst).Nodup) (hp : (es.map Prod.fst).Perm (names.map .text))
    (h : ∀ k ∈ names, ∃ v w, Datum.find? k es = some v ∧ (Datum.text k, w) ∈ es' ∧ v.same w = true) :
    Datum.sameEntries es es' = true := by
  refine Datum.sameEntries_iff.mpr fun e hmem => ?_
  obtain ⟨k, hkn, hke⟩ := List.mem_map.mp (hp.mem_iff.mp (List.mem_map_of_mem hmem))
  obtain ⟨v, w, hfind, hw, hsame⟩ := h k hkn
  have hfind' := Datum.find?_of_mem hk (show (Datum.text k, e.2) ∈ es by rwa [hke])
  rw [hfind'] at hfind
  cases hfind
  exact ⟨_, hw, by rw [← hke]; exact Datum.same_text.mpr rfl, hsame⟩

section

variable [Memory]

theorem readsBack_struct {name : String} {fs : List (String × Descriptor)}
    (hd : (fs.map Prod.fst).Nodup) (hr : ∀ f ∈ fs, f.2.ReadsBack) : (struct name fs).ReadsBack := by
  intro v segments rest hv h
  obtain ⟨es, rfl, hnames, he⟩ := encode_struct_eq_ok h
  cases hv with
  | struct hk hshape =>
    obtain ⟨ws, hws, hkeys, hall⟩ := readFields_readsBack hr hshape rest he
    have hperm := perm_of_namesMatch hd hk hnames
    have hlen : es.length = ws.length := by
      have hh := hperm.length_eq
      have hh' := congrArg List.length hkeys
      simp only [List.length_map] at hh hh'
      omega
    refine ⟨.dict ws, ?_, ?_⟩
    · rw [read, bind_run_of_ok hws]
      rfl
    · have hentries : Datum.sameEntries es ws = true := by
        refine sameEntries_of_perm hk hperm fun k hkn => ?_
        obtain ⟨f, hf, rfl⟩ := List.mem_map.mp hkn
        exact hall f hf
      simp [Datum.same, hlen, hentries]

theorem readsBack {d : Descriptor} (hd : d.WellFormed) : d.ReadsBack := by
  induction d with
  | uint max width =>
    intro v segments rest _ h
    obtain ⟨n, hv, hn, rfl⟩ := encodeInteger_eq_ok h
    exact ⟨.int n, read_uint hd.2 hn rest, Datum.same_of_integer? hv rfl⟩
  | enum max width cls =>
    intro v segments rest hshape h
    obtain ⟨n, hv, hn, rfl⟩ := encodeInteger_eq_ok h
    cases hshape with
    | ordinal _ =>
      refine ⟨.int n, ?_, Datum.same_of_integer? hv rfl⟩
      exact (bind_run_of_ok (readRange_ofNat hd.2 hn rest)).trans rfl
    | member hm =>
      have hi : _ = (n : Int) := Option.some.inj ((integer?_of_member? hm).symm.trans hv)
      subst hi
      exact ⟨v, read_enum hd.2 hn hm rest, Datum.same_of_integer? hv hv⟩
  | bytes n =>
    intro v segments rest hshape h
    obtain ⟨b, hv, hb, hm, rfl⟩ := encodeBytes_eq_ok h
    cases hshape with
    | bytes c =>
      cases hv
      exact ⟨.bytes b, read_bytes hb hm rest, by simp [Datum.same, Datum.bytes?]⟩
  | bool =>
    intro v segments rest _ h
    obtain ⟨b, rfl, rfl⟩ := encode_bool_eq_ok h
    refine ⟨.bool b, ?_, Datum.same_bool b⟩
    exact (bind_run_of_ok (readBool_flag b rest)).trans rfl
  | text =>
    intro v segments rest _ h
    obtain ⟨s, rfl, rfl⟩ := encode_text_eq_ok h
    exact ⟨.text s, readText_encode s rest, Datum.same_text.mpr rfl⟩
  | field =>
    intro v segments rest _ h
    obtain ⟨n, hv, hn, rfl⟩ := encodeField_eq_ok h
    refine ⟨.int n, ?_, Datum.same_of_integer? hv rfl⟩
    exact (bind_run_of_ok (takeNat_of_holds (holds_field_ofNat hn) rest)).trans rfl
  | vector n e ih =>
    intro v segments rest hshape h
    obtain ⟨xs, hv, rfl, he⟩ := encode_vector_eq_ok h
    cases hshape with
    | vector hx =>
      cases hv
      obtain ⟨ws, hws, hs⟩ := times_readsBack (ih hd) rest hx he
      exact ⟨.tuple ws, (bind_run_of_ok hws).trans rfl, hs⟩
  | maybe p ih =>
    intro v segments rest hshape h
    obtain ⟨a, x, payload, rfl, hp, hdefault, rfl⟩ := encode_maybe_eq_ok h
    cases hshape with
    | maybe isSome hx =>
      rw [List.map_cons, List.cons_append, read, bind_run_of_ok (readBool_flag _ _)]
      cases isSome with
      | true =>
        obtain ⟨w, hw, hs⟩ := ih hd x payload rest hx hp
        exact ⟨.maybe (.bool true) w, (bind_run_of_ok hw).trans rfl, Datum.same_maybe true hs⟩
      | false =>
        -- The slots of the payload are skipped, and its placeholder is what was demanded of it.
        obtain ⟨y, hy, hs⟩ := hdefault rfl
        have hskip := skip_of_encode (show p.WellFormed from hd) hp rest
        refine ⟨.maybe (.bool false) y, (bind_run_of_ok hskip).trans ?_, Datum.same_maybe false hs⟩
        rw [hy]
        rfl
  | either l r ihl ihr =>
    intro v segments rest hshape h
    obtain ⟨a, x, y, left, right, rfl, hl, hr, hright, hleft, rfl⟩ := encode_either_eq_ok h
    cases hshape with
    | either isLeft hx hy =>
      rw [List.map_cons, List.cons_append, List.map_append, List.append_assoc, read,
        bind_run_of_ok (readBool_flag _ _)]
      cases isLeft with
      | true =>
        obtain ⟨w, hw, hs⟩ := ihl hd.1 x left (right.map .bytes ++ rest) hx hl
        obtain ⟨z, hz, hs'⟩ := hright rfl
        have hskip := skip_of_encode hd.2 hr rest
        refine ⟨.either (.bool true) w z, ?_, Datum.same_either true hs hs'⟩
        refine (bind_run_of_ok hw).trans ((bind_run_of_ok hskip).trans ?_)
        rw [hz]
        rfl
      | false =>
        obtain ⟨w, hw, hs⟩ := ihr hd.2 y right rest hy hr
        obtain ⟨z, hz, hs'⟩ := hleft rfl
        have hskip := skip_of_encode hd.1 hl (right.map .bytes ++ rest)
        refine ⟨.either (.bool false) z w, (bind_run_of_ok hskip).trans ?_,
          Datum.same_either false hs' hs⟩
        rw [hz]
        exact (bind_run_of_ok hw).trans rfl
  | struct name fs ih =>
    exact readsBack_struct hd.1 fun f hf => ih f hf (fieldsWellFormed_iff.mp hd.2 f hf)

/-- A value of the documented shape that is accepted takes up one segment for each slot, none of which
changes when the value is laid out, and both the segments and the laid out value are read back as a
value equal to it. -/
theorem decode_encode_of_hasShape {d : Descriptor} (hd : d.WellFormed) {v : Datum}
    (hv : d.HasShape v) {segments : List Bytes} (h : d.encode v = .ok segments) :
    segments.length = d.alignment.length ∧
      ∃ a, d.aligned v = .ok a ∧ a.segments = segments ∧ a.alignment = d.alignment ∧
        (∃ w, d.decode segments = .ok w ∧ v.same w = true) ∧
        ∃ w, d.fromAligned a = .ok w ∧ v.same w = true := by
  obtain ⟨a, ha, hs, halign⟩ := aligned_of_encode hd h
  obtain ⟨w, hw, hsame⟩ := readsBack hd v segments [] hv h
  rw [List.append_nil] at hw
  have hdecode : d.decode segments = .ok w := by simp only [decode, decodeData, hw]
  refine ⟨(encode_holds hd h).length_eq.symm, a, ha, hs, halign, ⟨w, hdecode, hsame⟩, w, ?_, hsame⟩
  rw [fromAligned, if_pos halign, hs, hdecode]

end

set_option maxRecDepth 2000 in
/-- The fields stand in another order in the dict than in the descriptor, and one side of the choice
is not selected. -/
theorem decode_encode_reordered_struct :
    let d : Descriptor := .struct "Entry" [("count", .uint 1000 2), ("note", .maybe .text),
      ("side", .either .bool (.vector 2 .field))]
    let v : Datum := .dict [(.text "side", .either (.bool false) (.bool false)
      (.tuple [.int 256, .int 0])), (.text "note", .maybe (.bool true) (.text "hi")),
      (.text "count", .int 7)]
    let segments : List Bytes := [[7], [1], [0x68, 0x69], [], [], [0, 1], []]
    d.WellFormed ∧ d.HasShape v ∧ d.encode v = .ok segments ∧
      ∃ w, d.decode segments = .ok w ∧ v.same w = true := by
  intro d v segments
  have hd : d.WellFormed := by
    simp [d, WellFormed, FieldsWellFormed, LittleEndian.fits_iff]
  have hv : d.HasShape v := by
    refine .struct (by simp) fun f hf w hw => ?_
    simp only [List.mem_cons, List.not_mem_nil, or_false] at hf
    rcases hf with rfl | rfl | rfl <;> simp at hw <;> subst hw
    · exact .uint rfl
    · exact .maybe true (.text "hi")
    · refine .either false (.bool false) (.vector fun x hx => ?_)
      simp only [List.mem_cons, List.not_mem_nil, or_false] at hx
      rcases hx with rfl | rfl
      · exact .field rfl
      · exact .field rfl
  have he : d.encode v = .ok segments := by
    have htext : Utf8.encode "hi" = [0x68, 0x69] := by decide +kernel
    have hcount : (uintName 1000).spell = .ok () := Label.spell_of_lt (by simp [uintName])
    have hside : ((either bool (vector 2 field)).name ++ " unselected left").spell = .ok () :=
      Label.spell_of_lt (by simp [name])
    simp [d, v, segments, encode, encodeFields, encodeEach, encodeInteger, encodeField, flag, namesMatch,
      vectorItems?, requirePlaceholder, placeholder, Datum.find?, Datum.same_text, Datum.same_bool,
      Datum.integer?, Datum.truth, LittleEndian.ofNat, htext, hcount, hside]
  obtain ⟨-, a, -, -, -, hw, -⟩ := decode_encode_of_hasShape hd hv he
  exact ⟨hd, hv, he, hw⟩

end Descriptor

end AlignedLedger
