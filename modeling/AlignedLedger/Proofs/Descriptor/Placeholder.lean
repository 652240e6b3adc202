import AlignedLedger.Proofs.Datum.Coerce
import AlignedLedger.Proofs.Descriptor.RoundTrip

/-! Placeholders: what stands in for values that are not there. Any value equal to one is written as the
placeholder itself is. -/

namespace AlignedLedger.Descriptor

variable {d : Descriptor} {v w : Datum} {segments : List Bytes}

theorem placeholder_member [Memory] {max width : Nat} {c : EnumClass} :
    (enum max width (some c)).placeholder = .ok v ↔ c.member? 0 = some v := by
  simp only [placeholder]
  cases c.member? 0 <;> simp

theorem repeatValue_eq_ok {n : Nat} {one : Except Fault Datum} {ys : List Datum}
    (h : repeatValue n one = .ok ys) : ∀ y ∈ ys, one = .ok y := by
  induction n generalizing ys with
  | zero =>
    cases h
    simp
  | succ n ih =>
    obtain ⟨y, hy, h⟩ := bind_eq_ok.mp h
    obtain ⟨rest, hr, h⟩ := bind_eq_ok.mp h
    cases h
    exact List.forall_mem_cons.mpr ⟨hy, ih hr⟩

/-- The fields in their order, each under its name. -/
theorem fieldPlaceholders_eq_ok [Memory] {fs : List (String × Descriptor)} {es : List (Datum × Datum)}
    (h : fieldPlaceholders fs = .ok es) :
    es.map Prod.fst = fs.map (fun f => Datum.text f.1) ∧
      ∀ e ∈ es, ∃ f ∈ fs, e.1 = .text f.1 ∧ f.2.placeholder = .ok e.2 := by
  induction fs generalizing es with
  | nil =>
    cases h
    simp
  | cons f fs ih =>
    obtain ⟨y, hy, h⟩ := bind_eq_ok.mp h
    obtain ⟨rest, hr, h⟩ := bind_eq_ok.mp h
    cases h
    obtain ⟨hkeys, hall⟩ := ih hr
    refine ⟨by simp [hkeys], List.forall_mem_cons.mpr ⟨⟨f, by simp, rfl, hy⟩, fun e he => ?_⟩⟩
    obtain ⟨g, hg, hh⟩ := hall e he
    exact ⟨g, List.mem_cons_of_mem _ hg, hh⟩

theorem same_placeholder [Memory] (h : d.placeholder = .ok v) : v.same v = true := by
  induction d generalizing v with
  | uint max width =>
    cases h
    exact Datum.same_of_integer? rfl rfl
  | enum max width cls =>
    cases cls with
    | none =>
      cases h
      exact Datum.same_of_integer? rfl rfl
    | some c =>
      have hi := integer?_of_member? (placeholder_member.mp h)
      exact Datum.same_of_integer? hi hi
  | bytes n =>
    obtain ⟨_, -, rfl⟩ := map_eq_ok.mp h
    simp [Datum.same, Datum.bytes?]
  | bool =>
    cases h
    exact Datum.same_bool false
  | text =>
    cases h
    exact Datum.same_text.mpr rfl
  | field =>
    cases h
    exact Datum.same_of_integer? rfl rfl
  | vector n e ih =>
    obtain ⟨ys, hys, rfl⟩ := map_eq_ok.mp h
    have hall := repeatValue_eq_ok hys
    exact Datum.sameList_iff.mpr (List.forall₂_same.mpr fun y hy => ih (hall y hy))
  | maybe p ih =>
    obtain ⟨y, hy, rfl⟩ := map_eq_ok.mp h
    exact Datum.same_maybe false (ih hy)
  | either l r ihl ihr =>
    obtain ⟨x, hx, h⟩ := bind_eq_ok.mp h
    obtain ⟨y, hy, h⟩ := bind_eq_ok.mp h
    cases h
    exact Datum.same_either true (ihl hx) (ihr hy)
  | struct name fs ih =>
    obtain ⟨es, hes, rfl⟩ := map_eq_ok.mp h
    have hentries : Datum.sameEntries es es = true := by
      refine Datum.sameEntries_iff.mpr fun e he => ⟨e, he, ?_⟩
      obtain ⟨f, hf, hk, hp⟩ := (fieldPlaceholders_eq_ok hes).2 e he
      rw [hk]
      exact ⟨Datum.same_text.mpr rfl, ih f hf hp⟩
    simp [Datum.same, hentries]

/-- The name of a slot is that of the descriptor and a few words. -/
theorem isWritable_slot {name : Label} (h : name.isWritable = true) (words : String) :
    (name ++ words : Label).isWritable = true := by
  simpa using h

theorem requirePlaceholder_self [Memory] {slot : Label} (hslot : slot.isWritable = true)
    (h : d.placeholder = .ok v) : d.requirePlaceholder v slot = .ok () := by
  rw [requirePlaceholder, Label.spell_of_isWritable hslot, ok_bind, h, ok_bind,
    if_pos (same_placeholder h)]
  rfl

theorem encode_maybe [Memory] {p : Descriptor} {isSome : Bool} (h : p.encode v = .ok segments)
    (hp : isSome = false → (maybe p).name.isWritable = true ∧ p.placeholder = .ok v) :
    (maybe p).encode (.maybe (.bool isSome) v) = .ok (flag isSome :: segments) := by
  cases isSome with
  | true =>
    simp only [encode, Datum.truth, h]
    rfl
  | false =>
    obtain ⟨hname, hv⟩ := hp rfl
    simp only [encode, Datum.truth, requirePlaceholder_self (isWritable_slot hname _) hv, h]
    rfl

theorem encode_either [Memory] {l r : Descriptor} {isLeft : Bool} {left right : List Bytes}
    (hname : (either l r).name.isWritable = true) (hl : l.encode v = .ok left) (hr : r.encode w = .ok right)
    (hright : isLeft = true → r.placeholder = .ok w) (hleft : isLeft = false → l.placeholder = .ok v) :
    (either l r).encode (.either (.bool isLeft) v w) = .ok (flag isLeft :: (left ++ right)) := by
  cases isLeft with
  | true =>
    simp only [encode, Datum.truth, requirePlaceholder_self (isWritable_slot hname _) (hright rfl), hl, hr]
    rfl
  | false =>
    simp only [encode, Datum.truth, requirePlaceholder_self (isWritable_slot hname _) (hleft rfl), hl, hr]
    rfl

/-- Elements are written as those in their places if each one is. -/
theorem encodeEach_of_forall₂ {encode : Datum → Except Fault (List Bytes)} {R : Datum → Datum → Prop}
    {xs ys : List Datum} (hxy : List.Forall₂ R xs ys)
    (he : ∀ y ∈ ys, ∀ x s, R x y → encode x = .ok s → encode y = .ok s)
    (h : encodeEach encode xs = .ok segments) : encodeEach encode ys = .ok segments := by
  induction hxy generalizing segments with
  | nil => exact h
  | @cons x y xs ys hr _ ih =>
    obtain ⟨front, hf, h⟩ := bind_eq_ok.mp h
    obtain ⟨rest, hrest, h⟩ := bind_eq_ok.mp h
    cases h
    have hy := he y (by simp) x front hr hf
    have hys := ih (fun z hz => he z (List.mem_cons_of_mem _ hz)) hrest
    rw [encodeEach, hy, ok_bind, hys]
    rfl

theorem encodeFields_of_forall [Memory] {fs : List (String × Descriptor)} {es es' : List (Datum × Datum)}
    (hall : ∀ f ∈ fs, ∀ v, Datum.find? f.1 es = some v → ∃ w, Datum.find? f.1 es' = some w ∧
      ∀ s, f.2.encode v = .ok s → f.2.encode w = .ok s)
    (h : encodeFields fs es = .ok segments) : encodeFields fs es' = .ok segments := by
  induction fs generalizing segments with
  | nil => exact h
  | cons f fs ih =>
    unfold encodeFields at h
    split at h
    · simp at h
    · next v hv =>
      obtain ⟨front, hf, h⟩ := bind_eq_ok.mp h
      obtain ⟨rest, hr, h⟩ := bind_eq_ok.mp h
      cases h
      obtain ⟨w, hw, hvw⟩ := hall f (by simp) v hv
      have hrest := ih (fun g hg => hall g (List.mem_cons_of_mem _ hg)) hr
      simp only [encodeFields, hw, hvw front hf, ok_bind, hrest]
      rfl

/-- Entries under the names of the fields, in their order. -/
theorem namesMatch_of_eq {names : List String} {keys : List Datum} (h : keys = names.map .text) :
    namesMatch names keys = true := by
  subst h
  simp only [namesMatch, Bool.and_eq_true, List.all_eq_true, List.any_eq_true]
  refine ⟨fun k hk => ?_, fun s hs => ⟨_, List.mem_map_of_mem hs, Datum.same_text.mpr rfl⟩⟩
  obtain ⟨s, hs, rfl⟩ := List.mem_map.mp hk
  simpa using hs

/-- What equals the placeholder is written, if at all, as the placeholder is. -/
theorem encode_placeholder_of_same [Memory] (hd : d.WellFormed) (hp : d.placeholder = .ok w)
    (hs : v.same w = true) (h : d.encode v = .ok segments) : d.encode w = .ok segments := by
  induction d generalizing v w segments with
  | uint max width =>
    cases hp
    obtain ⟨n, hv, hn, rfl⟩ := encodeInteger_eq_ok h
    obtain rfl : n = 0 := by exact_mod_cast Datum.eq_of_same_of_integer? hv rfl hs
    exact encodeInteger_of_isWritable (isWritable_of_encodeInteger h) rfl hn
  | enum max width cls =>
    have hw : w.integer? = some 0 := by
      cases cls with
      | none =>
        cases hp
        rfl
      | some c => exact integer?_of_member? (placeholder_member.mp hp)
    obtain ⟨n, hv, hn, rfl⟩ := encodeInteger_eq_ok h
    obtain rfl : n = 0 := by exact_mod_cast Datum.eq_of_same_of_integer? hv hw hs
    exact encodeInteger_of_isWritable (isWritable_of_encodeInteger h) hw hn
  | bytes n =>
    obtain ⟨_, -, rfl⟩ := map_eq_ok.mp hp
    obtain ⟨b, hv, hb, hm, rfl⟩ := encodeBytes_eq_ok h
    have hzeros := Datum.bytes?_of_same hv hs
    simp [encode, encodeBytes, hzeros, hb, hm]
  | bool =>
    cases hp
    obtain ⟨b, rfl, rfl⟩ := encode_bool_eq_ok h
    have hb : b = false := Datum.truth_of_same_bool hs
    rw [hb]
    rfl
  | text =>
    cases hp
    obtain ⟨s, rfl, rfl⟩ := encode_text_eq_ok h
    cases Datum.same_text.mp hs
    rfl
  | field =>
    cases hp
    obtain ⟨n, hv, hn, rfl⟩ := encodeField_eq_ok h
    obtain rfl : n = 0 := by exact_mod_cast Datum.eq_of_same_of_integer? hv rfl hs
    rfl
  | vector n e ih =>
    obtain ⟨ys, hys, rfl⟩ := map_eq_ok.mp hp
    obtain ⟨xs, rfl, hxy⟩ := Datum.eq_tuple_of_same hs
    obtain ⟨_, hx, hn, he⟩ := encode_vector_eq_ok h
    cases hx
    have hall := repeatValue_eq_ok hys
    have hpairs := Datum.sameList_iff.mp hxy
    have hlen : ys.length = n := by rw [← hpairs.length_eq, hn]
    simp only [encode, vectorItems?, if_pos hlen]
    exact encodeEach_of_forall₂ hpairs (fun y hy x s hxy hx => ih hd (hall y hy) hxy hx) he
  | maybe p ih =>
    obtain ⟨y, hy, rfl⟩ := map_eq_ok.mp hp
    obtain ⟨a, x, rfl, ha, hx⟩ := Datum.eq_maybe_of_same hs
    obtain ⟨_, _, payload, ⟨⟩, hpayload, -, rfl⟩ := encode_maybe_eq_ok h
    rw [Datum.truth_of_same_bool ha]
    exact encode_maybe (ih hd hy hx hpayload) fun ha' =>
      ⟨isWritable_of_encode_absent h ((Datum.truth_of_same_bool ha).trans ha'), hy⟩
  | either l r ihl ihr =>
    obtain ⟨x, hx, hp⟩ := bind_eq_ok.mp hp
    obtain ⟨y, hy, hp⟩ := bind_eq_ok.mp hp
    cases hp
    obtain ⟨a, x', y', rfl, ha, hx', hy'⟩ := Datum.eq_either_of_same hs
    obtain ⟨_, _, _, left, right, ⟨⟩, hl, hr, -, -, rfl⟩ := encode_either_eq_ok h
    rw [Datum.truth_of_same_bool ha]
    exact encode_either (isWritable_of_encode_either h) (ihl hd.1 hx hx' hl) (ihr hd.2 hy hy' hr)
      (fun _ => hy) (by simp)
  | struct name fs ih =>
    obtain ⟨es', hes, rfl⟩ := map_eq_ok.mp hp
    obtain ⟨es, rfl, -, hentries⟩ := Datum.eq_dict_of_same hs
    obtain ⟨_, ⟨⟩, -, he⟩ := encode_struct_eq_ok h
    obtain ⟨hkeys, hall⟩ := fieldPlaceholders_eq_ok hes
    have hkeys' : es'.map Prod.fst = (fs.map Prod.fst).map .text := by simp [hkeys]
    have hnodup : (es'.map Prod.fst).Nodup := by
      rw [hkeys']
      exact hd.1.map fun _ _ he => Datum.text.inj he
    simp only [encode, namesMatch_of_eq hkeys', if_true]
    refine encodeFields_of_forall (fun f hf v hv => ?_) he
    -- The entry that equals this one stands under the same name, so it is that of the same field.
    obtain ⟨⟨k, w⟩, hmem, hk, hvw⟩ := Datum.sameEntries_iff.mp hentries _ (Datum.mem_of_find? hv)
    obtain rfl := Datum.same_text.mp hk
    obtain ⟨g, hg, hname, hw⟩ := hall _ hmem
    obtain rfl := List.inj_on_of_nodup_map hd.1 hf hg (Datum.text.inj hname)
    exact ⟨w, Datum.find?_of_mem hnodup hmem,
      fun s => ih f hf (fieldsWellFormed_iff.mp hd.2 f hf) hw hvw⟩

/-- There is no placeholder: no member has the ordinal zero, or there is no room for the bytes. -/
inductive Lacking [Memory] : Descriptor → Prop
  | member {max width : Nat} {c : EnumClass} (h : c.member? 0 = none) : Lacking (.enum max width (some c))
  | bytes {length : Nat} (h : Memory.available < length) : Lacking (.bytes length)
  | vector {count : Nat} {e : Descriptor} (hn : count ≠ 0) (h : Lacking e) : Lacking (.vector count e)
  | maybe {p : Descriptor} (h : Lacking p) : Lacking (.maybe p)
  | left {l r : Descriptor} (h : Lacking l) : Lacking (.either l r)
  | right {l r : Descriptor} (h : Lacking r) : Lacking (.either l r)
  | field {name : String} {fs : List (String × Descriptor)} {f : String × Descriptor} (hf : f ∈ fs)
    (h : Lacking f.2) : Lacking (.struct name fs)

section Lacking

variable [Memory]

variable {n : Nat} {name : String} {p e l r : Descriptor} {fs : List (String × Descriptor)}

theorem lacking_member {max width : Nat} {c : EnumClass} :
    (enum max width (some c)).Lacking ↔ c.member? 0 = none := by
  constructor
  · intro h
    cases h with
    | member h => exact h
  · exact .member

theorem lacking_bytes : (bytes n).Lacking ↔ Memory.available < n := by
  constructor
  · intro h
    cases h with
    | bytes h => exact h
  · exact .bytes

theorem lacking_vector : (vector n e).Lacking ↔ n ≠ 0 ∧ e.Lacking := by
  constructor
  · intro h
    cases h with
    | vector hn h => exact ⟨hn, h⟩
  · rintro ⟨hn, h⟩
    exact .vector hn h

theorem lacking_maybe : (maybe p).Lacking ↔ p.Lacking := by
  constructor
  · intro h
    cases h with
    | maybe h => exact h
  · exact .maybe

theorem lacking_either : (either l r).Lacking ↔ l.Lacking ∨ r.Lacking := by
  constructor
  · intro h
    cases h with
    | left h => exact .inl h
    | right h => exact .inr h
  · rintro (h | h)
    · exact .left h
    · exact .right h

theorem lacking_struct : (struct name fs).Lacking ↔ ∃ f ∈ fs, f.2.Lacking := by
  constructor
  · intro h
    cases h with
    | field hf h => exact ⟨_, hf, h⟩
  · rintro ⟨f, hf, h⟩
    exact .field hf h

end Lacking

theorem exists_repeatValue {n : Nat} {one : Except Fault Datum} :
    (∃ ys, repeatValue n one = .ok ys) ↔ n = 0 ∨ ∃ y, one = .ok y := by
  induction n with
  | zero => simp [repeatValue]
  | succ n ih =>
    cases one with
    | error e => simp [repeatValue]
    | ok y =>
      obtain ⟨ys, hys⟩ := ih.mpr (.inr ⟨y, rfl⟩)
      simp [repeatValue, hys]

theorem exists_fieldPlaceholders [Memory] {fs : List (String × Descriptor)} :
    (∃ es, fieldPlaceholders fs = .ok es) ↔ ∀ f ∈ fs, ∃ y, f.2.placeholder = .ok y := by
  induction fs with
  | nil => simp [fieldPlaceholders]
  | cons f fs ih =>
    rw [List.forall_mem_cons, ← ih]
    cases hf : f.2.placeholder with
    | error e => simp [fieldPlaceholders, hf]
    | ok y => cases hfs : fieldPlaceholders fs <;> simp [fieldPlaceholders, hf, hfs]

theorem exists_placeholder [Memory] : (∃ y, d.placeholder = .ok y) ↔ ¬ d.Lacking := by
  induction d with
  | uint max width => exact iff_of_true ⟨_, rfl⟩ (by rintro ⟨⟩)
  | enum max width cls =>
    cases cls with
    | none => exact iff_of_true ⟨_, rfl⟩ (by rintro ⟨⟩)
    | some c =>
      simp only [lacking_member, placeholder_member]
      exact Option.ne_none_iff_exists'.symm
  | bytes n => rw [lacking_bytes, Nat.not_lt, placeholder, exists_map, Memory.exists_request]
  | bool => exact iff_of_true ⟨_, rfl⟩ (by rintro ⟨⟩)
  | text => exact iff_of_true ⟨_, rfl⟩ (by rintro ⟨⟩)
  | field => exact iff_of_true ⟨_, rfl⟩ (by rintro ⟨⟩)
  | vector n e ih =>
    rw [lacking_vector, placeholder, exists_map, exists_repeatValue, ih]
    tauto
  | maybe p ih => rw [lacking_maybe, placeholder, exists_map, ih]
  | either l r ihl ihr =>
    rw [lacking_either, not_or, ← ihl, ← ihr, placeholder]
    cases l.placeholder <;> cases r.placeholder <;> simp
  | struct name fs ih =>
    rw [lacking_struct, placeholder, exists_map, exists_fieldPlaceholders]
    simp only [not_exists, not_and]
    exact forall₂_congr ih

theorem not_isReported_of_repeatValue {n : Nat} {one : Except Fault Datum} {e : Fault}
    (h : ∀ e, one = .error e → ¬ e.IsReported) (he : repeatValue n one = .error e) : ¬ e.IsReported := by
  induction n with
  | zero => cases he
  | succ n ih =>
    rcases bind_eq_error.mp he with he | ⟨_, -, he⟩
    · exact h e he
    · rcases bind_eq_error.mp he with he | ⟨_, -, ⟨⟩⟩
      exact ih he

theorem not_isReported_of_fieldPlaceholders [Memory] {fs : List (String × Descriptor)} {e : Fault}
    (h : ∀ f ∈ fs, ∀ e, f.2.placeholder = .error e → ¬ e.IsReported)
    (he : fieldPlaceholders fs = .error e) : ¬ e.IsReported := by
  induction fs with
  | nil => cases he
  | cons f fs ih =>
    rcases bind_eq_error.mp he with he | ⟨_, -, he⟩
    · exact h f (by simp) e he
    · rcases bind_eq_error.mp he with he | ⟨_, -, ⟨⟩⟩
      exact ih (fun g hg => h g (List.mem_cons_of_mem _ hg)) he

/-- No report is made of a placeholder that does not exist. -/
theorem not_isReported_of_placeholder [Memory] {e : Fault} (h : d.placeholder = .error e) : ¬ e.IsReported := by
  induction d generalizing e with
  | uint max width => cases h
  | enum max width cls =>
    cases cls with
    | none => cases h
    | some c =>
      simp only [placeholder] at h
      split at h
      · cases h
      · cases h
        exact Fault.not_isReported_of_kind rfl
  | bytes n => exact Memory.not_isReported_of_request (map_eq_error.mp h)
  | bool => cases h
  | text => cases h
  | field => cases h
  | vector n e ih => exact not_isReported_of_repeatValue (fun _ => ih) (map_eq_error.mp h)
  | maybe p ih => exact ih (map_eq_error.mp h)
  | either l r ihl ihr =>
    rcases bind_eq_error.mp h with h | ⟨_, -, h⟩
    · exact ihl h
    · rcases bind_eq_error.mp h with h | ⟨_, -, ⟨⟩⟩
      exact ihr h
  | struct name fs ih =>
    exact not_isReported_of_fieldPlaceholders (fun f hf _ => ih f hf) (map_eq_error.mp h)

theorem unreported_placeholder [Memory] : Unreported d.placeholder ↔ d.Lacking := by
  rw [unreported_iff_of_forall fun _ => not_isReported_of_placeholder, exists_placeholder, not_not]

theorem areWritable_of_forall {xs : List Datum} (h : ∀ x ∈ xs, x.isWritable = true) :
    Datum.areWritable xs = true := by
  induction xs with
  | nil => rfl
  | cons x xs ih =>
    obtain ⟨hx, hxs⟩ := List.forall_mem_cons.mp h
    simp [Datum.areWritable, hx, ih hxs]

theorem haveWritable_of_forall {es : List (Datum × Datum)}
    (h : ∀ e ∈ es, e.1.isWritable = true ∧ e.2.isWritable = true) : Datum.haveWritable es = true := by
  induction es with
  | nil => rfl
  | cons e es ih =>
    obtain ⟨he, hes⟩ := List.forall_mem_cons.mp h
    simp [Datum.haveWritable, he, ih hes]

variable [Memory]

/-- All the numbers in a placeholder are zero. -/
theorem isWritable_placeholder (h : d.placeholder = .ok v) : v.isWritable = true := by
  have hzero : Text.isWritable 0 = true := Text.isWritable_of_lt (by decide)
  induction d generalizing v with
  | uint max width =>
    cases h
    exact hzero
  | enum max width cls =>
    cases cls with
    | none =>
      cases h
      exact hzero
    | some c =>
      have hi := integer?_of_member? (placeholder_member.mp h)
      have hindex : v.index? = some 0 := by
        cases v <;> simp_all [Datum.index?, Datum.integer?]
      exact Datum.isWritable_of_index hindex hzero
  | bytes n =>
    obtain ⟨_, -, rfl⟩ := map_eq_ok.mp h
    rfl
  | bool =>
    cases h
    rfl
  | text =>
    cases h
    rfl
  | field =>
    cases h
    exact hzero
  | vector n e ih =>
    obtain ⟨ys, hys, rfl⟩ := map_eq_ok.mp h
    exact areWritable_of_forall fun y hy => ih (repeatValue_eq_ok hys y hy)
  | maybe p ih =>
    obtain ⟨y, hy, rfl⟩ := map_eq_ok.mp h
    simp [Datum.isWritable, ih hy]
  | either l r ihl ihr =>
    obtain ⟨x, hx, h⟩ := bind_eq_ok.mp h
    obtain ⟨y, hy, h⟩ := bind_eq_ok.mp h
    cases h
    simp [Datum.isWritable, ihl hx, ihr hy]
  | struct name fs ih =>
    obtain ⟨es, hes, rfl⟩ := map_eq_ok.mp h
    refine haveWritable_of_forall fun e he => ?_
    obtain ⟨f, hf, hk, hp⟩ := (fieldPlaceholders_eq_ok hes).2 e he
    rw [hk]
    exact ⟨rfl, ih f hf hp⟩

/-- The value equals the placeholder. -/
def IsPlaceholder (d : Descriptor) (v : Datum) : Prop := ∃ p, d.placeholder = .ok p ∧ v.same p = true

end AlignedLedger.Descriptor
