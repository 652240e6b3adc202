import AlignedLedger.Proofs.Descriptor.Placeholder
import AlignedLedger.Proofs.Outcome

/-! What becomes of accepted values of any kind. Writing does not ask whether a number stands for a member
of its enumeration, reading does; that apart, what is written is read, and is written the same again. -/

namespace AlignedLedger.Descriptor

open SegmentReader

/-- Wherever an enumeration has a class and its slot is looked at, the number is that of a member. -/
inductive Named : Descriptor → Datum → Prop
  | uint (max width : Nat) (v : Datum) : Named (.uint max width) v
  | ordinal (max width : Nat) (v : Datum) : Named (.enum max width none) v
  | member {max width : Nat} {c : EnumClass} {v w : Datum} {i : Int} (hv : v.integer? = some i)
    (hw : c.member? i = some w) : Named (.enum max width (some c)) v
  | bytes (length : Nat) (v : Datum) : Named (.bytes length) v
  | bool (v : Datum) : Named .bool v
  | text (v : Datum) : Named .text v
  | field (v : Datum) : Named .field v
  | vector {count : Nat} {e : Descriptor} {v : Datum} {xs : List Datum} (hx : vectorItems? v = some xs)
    (h : ∀ x ∈ xs, Named e x) : Named (.vector count e) v
  | absent {p : Descriptor} {a x : Datum} (ha : a.truth = false) : Named (.maybe p) (.maybe a x)
  | present {p : Descriptor} {a x : Datum} (ha : a.truth = true) (h : Named p x) :
    Named (.maybe p) (.maybe a x)
  | left {l r : Descriptor} {a x y : Datum} (ha : a.truth = true) (h : Named l x) :
    Named (.either l r) (.either a x y)
  | right {l r : Descriptor} {a x y : Datum} (ha : a.truth = false) (h : Named r y) :
    Named (.either l r) (.either a x y)
  | struct {name : String} {fs : List (String × Descriptor)} {es : List (Datum × Datum)}
    (h : ∀ f ∈ fs, ∀ v, Datum.find? f.1 es = some v → Named f.2 v) : Named (.struct name fs) (.dict es)

variable {d : Descriptor} {v w : Datum} {segments : List Bytes}

theorem named_member {max width : Nat} {c : EnumClass} {i : Int} (hv : v.integer? = some i) :
    (enum max width (some c)).Named v ↔ ∃ w, c.member? i = some w := by
  constructor
  · intro h
    cases h with
    | member hi hw =>
      cases hv.symm.trans hi
      exact ⟨_, hw⟩
  · rintro ⟨w, hw⟩
    exact .member hv hw

theorem named_vector {n : Nat} {e : Descriptor} {xs : List Datum} (hx : vectorItems? v = some xs) :
    (vector n e).Named v ↔ ∀ x ∈ xs, e.Named x := by
  refine ⟨fun h => ?_, .vector hx⟩
  cases h with
  | vector hx' h =>
    cases hx.symm.trans hx'
    exact h

theorem named_present {p : Descriptor} {a x : Datum} (ha : a.truth = true) :
    (maybe p).Named (.maybe a x) ↔ p.Named x := by
  refine ⟨fun h => ?_, .present ha⟩
  cases h with
  | absent ha' => simp [ha] at ha'
  | present _ h => exact h

theorem named_left {l r : Descriptor} {a x y : Datum} (ha : a.truth = true) :
    (either l r).Named (.either a x y) ↔ l.Named x := by
  refine ⟨fun h => ?_, .left ha⟩
  cases h with
  | left _ h => exact h
  | right ha' _ => simp [ha] at ha'

theorem named_right {l r : Descriptor} {a x y : Datum} (ha : a.truth = false) :
    (either l r).Named (.either a x y) ↔ r.Named y := by
  refine ⟨fun h => ?_, .right ha⟩
  cases h with
  | left ha' _ => simp [ha] at ha'
  | right _ h => exact h

theorem named_struct {name : String} {fs : List (String × Descriptor)} {es : List (Datum × Datum)} :
    (struct name fs).Named (.dict es) ↔
      ∀ f ∈ fs, ∀ v, Datum.find? f.1 es = some v → f.2.Named v := by
  refine ⟨fun h => ?_, .struct⟩
  cases h with
  | struct h => exact h

/-- Segments written for the value are read as one that is written the same, or a number is not that of a
member. -/
def Rereads [Memory] (d : Descriptor) (v : Datum) (segments : List Bytes) (rest : List Datum) : Prop :=
  Ends (d.read (segments.map .bytes ++ rest))
    (fun w left => left = rest ∧ d.encode w = .ok segments ∧ d.Named v)
    (fun e => ¬ d.Named v ∧ ∃ n name, e = .notAMember n name)

theorem Rereads.of_read [Memory] {rest : List Datum} (hread : d.read (segments.map .bytes ++ rest) = .ok w rest)
    (hw : d.encode w = .ok segments) (hv : d.Named v) : d.Rereads v segments rest := by
  rw [Rereads, hread]
  exact ⟨rfl, hw, hv⟩

theorem rereads_enum [Memory] {max width : Nat} {cls : Option EnumClass} (hw : LittleEndian.Fits width max)
    (h : (enum max width cls).encode v = .ok segments) (rest : List Datum) :
    (enum max width cls).Rereads v segments rest := by
  obtain ⟨n, hv, hn, rfl⟩ := encodeInteger_eq_ok h
  have hname := isWritable_of_encodeInteger h
  cases cls with
  | none =>
    have hread : (enum max width none).read ([LittleEndian.ofNat n].map .bytes ++ rest) =
        .ok (.int n) rest := (bind_run_of_ok (readRange_ofNat hw hn rest)).trans rfl
    exact .of_read hread (encodeInteger_of_isWritable hname rfl hn) (.ordinal max width v)
  | some c =>
    cases hm : c.member? n with
    | some m =>
      have hi := integer?_of_member? hm
      exact .of_read (read_enum hw hn hm rest) (encodeInteger_of_isWritable hname hi hn) (.member hv hm)
    | none =>
      have hread : (enum max width (some c)).read ([LittleEndian.ofNat n].map .bytes ++ rest) =
          .error (.notAMember n c.name) rest := by
        refine (bind_run_of_ok (readRange_ofNat hw hn rest)).trans ?_
        simp only [hm]
        rfl
      rw [Rereads, hread, named_member hv]
      refine ⟨?_, n, c.name, rfl⟩
      simp [hm]

theorem times_rereads [Memory] {e : Descriptor}
    (he : ∀ v s rest, e.encode v = .ok s → e.Rereads v s rest) {xs : List Datum} (rest : List Datum)
    (h : encodeEach e.encode xs = .ok segments) :
    Ends (times xs.length e.read (segments.map .bytes ++ rest))
      (fun ws left => left = rest ∧ ws.length = xs.length ∧ encodeEach e.encode ws = .ok segments ∧
        ∀ x ∈ xs, e.Named x)
      (fun err => (¬ ∀ x ∈ xs, e.Named x) ∧ ∃ n name, err = .notAMember n name) := by
  induction xs generalizing segments with
  | nil =>
    cases h
    exact ⟨rfl, rfl, rfl, by simp⟩
  | cons x xs ih =>
    obtain ⟨front, hf, h⟩ := bind_eq_ok.mp h
    obtain ⟨back, hb, h⟩ := bind_eq_ok.mp h
    cases h
    rw [List.map_append, List.append_assoc]
    refine Ends.bind (he x front _ hf) ?_ ?_
    · rintro w _ ⟨rfl, hw, hx⟩
      refine Ends.bind (ih hb) ?_ ?_
      · rintro ws _ ⟨rfl, hlen, hws, hxs⟩
        refine ⟨rfl, by simp [hlen], ?_, List.forall_mem_cons.mpr ⟨hx, hxs⟩⟩
        rw [encodeEach, hw, ok_bind, hws]
        rfl
      · rintro err ⟨hxs, herr⟩
        exact ⟨fun hall => hxs (List.forall_mem_cons.mp hall).2, herr⟩
    · rintro err ⟨hx, herr⟩
      exact ⟨fun hall => hx (hall x (by simp)), herr⟩

/-- The fields are read in their order, each as a value that is written as the one in the dict. -/
theorem readFields_rereads [Memory] {fs : List (String × Descriptor)} {es : List (Datum × Datum)}
    (hr : ∀ f ∈ fs, ∀ v s rest, f.2.encode v = .ok s → f.2.Rereads v s rest)
    (rest : List Datum) (h : encodeFields fs es = .ok segments) :
    Ends (readFields fs (segments.map .bytes ++ rest))
      (fun ws left => left = rest ∧ ws.map Prod.fst = (fs.map Prod.fst).map .text ∧
        (∀ f ∈ fs, ∃ v w, Datum.find? f.1 es = some v ∧ (Datum.text f.1, w) ∈ ws ∧
          ∀ s, f.2.encode v = .ok s → f.2.encode w = .ok s) ∧
        ∀ f ∈ fs, ∀ v, Datum.find? f.1 es = some v → f.2.Named v)
      (fun err => (¬ ∀ f ∈ fs, ∀ v, Datum.find? f.1 es = some v → f.2.Named v) ∧
        ∃ n name, err = .notAMember n name) := by
  induction fs generalizing segments with
  | nil =>
    cases h
    exact ⟨rfl, rfl, by simp, by simp⟩
  | cons f fs ih =>
    unfold encodeFields at h
    split at h
    · simp at h
    · next v hv =>
      obtain ⟨front, hf, h⟩ := bind_eq_ok.mp h
      obtain ⟨back, hb, h⟩ := bind_eq_ok.mp h
      cases h
      rw [List.map_append, List.append_assoc]
      refine Ends.bind (hr f (by simp) v front _ hf) ?_ ?_
      · rintro w _ ⟨rfl, hw, hx⟩
        refine Ends.bind (ih (fun g hg => hr g (List.mem_cons_of_mem _ hg)) hb) ?_ ?_
        · rintro ws _ ⟨rfl, hkeys, hall, hnamed⟩
          refine ⟨rfl, by simp [hkeys], ?_, List.forall_mem_cons.mpr ⟨fun v' hv' => ?_, hnamed⟩⟩
          · intro g hg
            rcases List.mem_cons.mp hg with rfl | hg
            · refine ⟨v, w, hv, by simp, fun s hs => ?_⟩
              cases hf.symm.trans hs
              exact hw
            · obtain ⟨v', w', hv', hmem, hvw⟩ := hall g hg
              exact ⟨v', w', hv', List.mem_cons_of_mem _ hmem, hvw⟩
          · cases hv.symm.trans hv'
            exact hx
        · rintro err ⟨hxs, herr⟩
          exact ⟨fun hall => hxs (List.forall_mem_cons.mp hall).2, herr⟩
      · rintro err ⟨hx, herr⟩
        exact ⟨fun hall => hx (hall f (by simp) v hv), herr⟩

theorem rereads [Memory] (hd : d.WellFormed) (h : d.encode v = .ok segments) (rest : List Datum) :
    d.Rereads v segments rest := by
  induction d generalizing v segments rest with
  | uint max width =>
    obtain ⟨n, hv, hn, rfl⟩ := encodeInteger_eq_ok h
    have hname := isWritable_of_encodeInteger h
    exact .of_read (read_uint hd.2 hn rest) (encodeInteger_of_isWritable hname rfl hn) (.uint max width v)
  | enum max width cls => exact rereads_enum hd.2 h rest
  | bytes n =>
    obtain ⟨b, hv, hb, hm, rfl⟩ := encodeBytes_eq_ok h
    refine .of_read (read_bytes hb hm rest) ?_ (.bytes n v)
    simp [encode, encodeBytes, Datum.bytes?, hb, hm]
  | bool =>
    obtain ⟨b, rfl, rfl⟩ := encode_bool_eq_ok h
    exact .of_read ((bind_run_of_ok (readBool_flag b rest)).trans rfl) rfl (.bool _)
  | text =>
    obtain ⟨s, rfl, rfl⟩ := encode_text_eq_ok h
    exact .of_read (readText_encode s rest) rfl (.text _)
  | field =>
    obtain ⟨n, hv, hn, rfl⟩ := encodeField_eq_ok h
    refine .of_read ((bind_run_of_ok (takeNat_of_holds (holds_field_ofNat hn) rest)).trans rfl) ?_ (.field v)
    have hr : 0 ≤ (n : Int) ∧ (n : Int) < (1 <<< 256 : Nat) := by
      rw [Nat.one_shiftLeft]
      omega
    simp only [encode, encodeField, Datum.integer?, if_pos hr, Int.toNat_natCast]
  | vector n e ih =>
    obtain ⟨xs, hv, rfl, he⟩ := encode_vector_eq_ok h
    have hitems : ∀ v s rest, e.encode v = .ok s → e.Rereads v s rest :=
      fun v s rest hs => ih hd hs rest
    rw [Rereads, named_vector hv]
    refine Ends.bind (times_rereads hitems rest he) ?_ fun _ h => h
    rintro ws _ ⟨rfl, hlen, hws, hall⟩
    refine ⟨rfl, ?_, hall⟩
    simp only [encode, vectorItems?, if_pos hlen, hws]
  | maybe p ih =>
    obtain ⟨a, x, payload, rfl, hp, hdefault, rfl⟩ := encode_maybe_eq_ok h
    rw [Rereads, List.map_cons, List.cons_append, read, bind_run_of_ok (readBool_flag _ _)]
    cases ha : a.truth with
    | true =>
      rw [named_present ha]
      refine Ends.bind (ih hd hp rest) ?_ fun _ h => h
      rintro w _ ⟨rfl, hw, hx⟩
      exact ⟨rfl, encode_maybe hw (by simp), hx⟩
    | false =>
      -- The slots are passed over, and what was written in them is what the placeholder puts there.
      obtain ⟨y, hy, hs⟩ := hdefault ha
      have hp' : p.WellFormed := hd
      have hw := encode_placeholder_of_same hp' hy hs hp
      simp only [Bool.false_eq_true, if_false]
      rw [bind_run_of_ok (skip_of_encode hp' hp rest), hy]
      exact ⟨rfl, encode_maybe hw fun _ => ⟨isWritable_of_encode_absent h ha, hy⟩, .absent ha⟩
  | either l r ihl ihr =>
    obtain ⟨a, x, y, left, right, rfl, hl, hr, hright, hleft, rfl⟩ := encode_either_eq_ok h
    rw [Rereads, List.map_cons, List.cons_append, List.map_append, List.append_assoc, read,
      bind_run_of_ok (readBool_flag _ _)]
    have hname := isWritable_of_encode_either h
    cases ha : a.truth with
    | true =>
      obtain ⟨z, hz, hs⟩ := hright ha
      have hw' := encode_placeholder_of_same hd.2 hz hs hr
      rw [named_left ha]
      refine Ends.bind (ihl hd.1 hl (right.map Datum.bytes ++ rest)) ?_ fun _ h => h
      rintro w _ ⟨rfl, hw, hx⟩
      rw [bind_run_of_ok (skip_of_encode hd.2 hr rest), hz]
      exact ⟨rfl, encode_either hname hw hw' (fun _ => hz) (by simp), hx⟩
    | false =>
      obtain ⟨z, hz, hs⟩ := hleft ha
      have hw' := encode_placeholder_of_same hd.1 hz hs hl
      rw [named_right ha]
      simp only [Bool.false_eq_true, if_false]
      rw [bind_run_of_ok (skip_of_encode hd.1 hl (right.map Datum.bytes ++ rest)), hz,
        bind_run_of_ok (ofExcept_ok z _)]
      refine Ends.bind (ihr hd.2 hr rest) ?_ fun _ h => h
      rintro w _ ⟨rfl, hw, hy⟩
      exact ⟨rfl, encode_either hname hw' hw (by simp) (fun _ => hz), hy⟩
  | struct name fs ih =>
    obtain ⟨es, rfl, hnames, he⟩ := encode_struct_eq_ok h
    have hfields : ∀ f ∈ fs, ∀ v s rest, f.2.encode v = .ok s → f.2.Rereads v s rest :=
      fun f hf v s rest hs => ih f hf (fieldsWellFormed_iff.mp hd.2 f hf) hs rest
    rw [Rereads, named_struct]
    refine Ends.bind (readFields_rereads hfields rest he) ?_ fun _ h => h
    rintro ws _ ⟨rfl, hkeys, hall, hnamed⟩
    refine ⟨rfl, ?_, hnamed⟩
    have hnodup : (ws.map Prod.fst).Nodup := by
      rw [hkeys]
      exact hd.1.map fun _ _ he => Datum.text.inj he
    simp only [encode, namesMatch_of_eq hkeys, if_true]
    refine encodeFields_of_forall (fun f hf v hv => ?_) he
    obtain ⟨v', w, hv', hmem, hvw⟩ := hall f hf
    cases hv.symm.trans hv'
    exact ⟨w, Datum.find?_of_mem hnodup hmem, hvw⟩

/-- Whatever is accepted is read back exactly if each number that is looked at for a member is that of one,
and this is all that can stop the reading. What is read is written in the same segments again. -/
theorem decode_encode_iff_named [Memory] (hd : d.WellFormed) (h : d.encode v = .ok segments) :
    ((∃ w, d.decode segments = .ok w) ↔ d.Named v) ∧
      (∀ w, d.decode segments = .ok w → d.encode w = .ok segments) ∧
      ∀ e, d.decode segments = .error e → ∃ n name, e = .notAMember n name := by
  have hread := rereads hd h []
  rw [Rereads, List.append_nil] at hread
  cases hr : d.read (segments.map .bytes) with
  | ok w left =>
    obtain ⟨rfl, hw, hv⟩ := hread.of_ok hr
    have hdecode : d.decode segments = .ok w := by simp only [decode, decodeData, hr]
    rw [hdecode]
    refine ⟨⟨fun _ => hv, fun _ => ⟨w, rfl⟩⟩, ?_, ?_⟩
    · rintro _ ⟨⟩
      exact hw
    · rintro e ⟨⟩
  | error e left =>
    obtain ⟨hv, he⟩ := hread.of_error hr
    have hdecode : d.decode segments = .error e := by simp only [decode, decodeData, hr]
    rw [hdecode]
    refine ⟨⟨?_, fun hv' => absurd hv' hv⟩, ?_, ?_⟩
    · rintro ⟨w, ⟨⟩⟩
    · rintro w ⟨⟩
    · rintro _ ⟨⟩
      exact he

/-- An enumeration with a gap between its members. -/
def color : Descriptor := .enum 3 1 (some ⟨"Color", [("RED", 0), ("BLUE", 2)]⟩)

theorem wellFormed_color : color.WellFormed := by
  refine ⟨by decide, ?_⟩
  rw [LittleEndian.fits_iff]
  decide

/-- A list in the place of a tuple, numbers in the places of members, and flags that are no truth values. -/
theorem colors_read_back :
    let d : Descriptor := .vector 2 (.maybe color)
    let v : Datum := .list [.maybe (.int 7) (.int 2), .maybe (.text "") (.int 0)]
    let segments : List Bytes := [[1], [2], [], []]
    d.WellFormed ∧ d.encode v = .ok segments ∧
      (∃ w, d.decode segments = .ok w ∧ d.encode w = .ok segments) ∧
      color.encode (.int 1) = .ok [[1]] ∧ ∃ n name, color.decode [[1]] = .error (.notAMember n name) := by
  intro d v segments
  have hd : d.WellFormed := wellFormed_color
  have he : d.encode v = .ok segments := by
    have hsame : (Datum.int 0).same (.member "Color" "RED" 0) = true := Datum.same_of_integer? rfl rfl
    simp [d, v, segments, color, encode, encodeEach, encodeInteger, vectorItems?, requirePlaceholder,
      placeholder, EnumClass.member?, Datum.integer?, Datum.truth, flag, LittleEndian.ofNat, Label.spell, name,
      hsame]
  have hv : d.Named v := by
    refine .vector rfl fun x hx => ?_
    rcases List.mem_pair.mp hx with rfl | rfl
    · exact .present rfl (.member rfl rfl)
    · exact .absent rfl
  have he' : color.encode (.int 1) = .ok [[1]] := by
    simp [color, encode, encodeInteger, Label.spell, Datum.integer?, LittleEndian.ofNat]
  obtain ⟨hread, hagain, -⟩ := decode_encode_iff_named hd he
  obtain ⟨hread', -, hstop⟩ := decode_encode_iff_named wellFormed_color he'
  obtain ⟨w, hw⟩ := hread.mpr hv
  refine ⟨hd, he, ⟨w, hw, hagain w hw⟩, he', ?_⟩
  cases hc : color.decode [[1]] with
  | ok w =>
    obtain ⟨m, hm⟩ := (named_member rfl).mp (hread'.mp ⟨w, hc⟩)
    cases hm
  | error e =>
    obtain ⟨n, name, rfl⟩ := hstop e hc
    exact ⟨n, name, rfl⟩

theorem gap_is_written :
    ¬ ∀ (d : Descriptor) (v : Datum) (segments : List Bytes), d.WellFormed → d.encode v = .ok segments →
      ∃ w, d.decode segments = .ok w := by
  intro h
  have he : color.encode (.int 1) = .ok [[1]] := by
    simp [color, encode, encodeInteger, Label.spell, Datum.integer?, LittleEndian.ofNat]
  obtain ⟨w, hw⟩ := h color (.int 1) [[1]] wellFormed_color he
  have hdecode : color.decode [[1]] = .error (.notAMember 1 "Color") := rfl
  cases hdecode.symm.trans hw

end AlignedLedger.Descriptor
