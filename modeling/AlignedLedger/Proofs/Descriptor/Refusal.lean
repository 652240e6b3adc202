import AlignedLedger.Call.Witness
import AlignedLedger.Proofs.Datum.Coerce
import AlignedLedger.Proofs.Descriptor.Placeholder

/-! How values are refused. Encoding fails with a report of its own kind, except where it stumbles: over a
number or a name that is too long to be written, over keys that have no order to list them in, over a
placeholder that does not exist, or over text without a UTF-8 form. -/

namespace AlignedLedger

namespace Descriptor

variable {d : Descriptor} {v : Datum}

/-- Asking for the placeholder stumbles: there is none, or the value is another and too long for the message
about it. -/
def StumblesOverAbsent [Memory] (d : Descriptor) (v : Datum) : Prop :=
  d.Lacking ∨ ∃ p, d.placeholder = .ok p ∧ v.same p = false ∧ v.isWritable = false

theorem exists_requirePlaceholder [Memory] {slot : Label} (hslot : slot.isWritable = true) :
    (∃ u, d.requirePlaceholder v slot = .ok u) ↔ d.IsPlaceholder v := by
  constructor
  · rintro ⟨_, h⟩
    exact requirePlaceholder_eq_ok h
  · rintro ⟨p, hp, hs⟩
    refine ⟨(), ?_⟩
    rw [requirePlaceholder, Label.spell_of_isWritable hslot, ok_bind, hp, ok_bind, if_pos hs]
    rfl

theorem unreported_requirePlaceholder [Memory] {slot : Label} (hslot : slot.isWritable = true) :
    Unreported (d.requirePlaceholder v slot) ↔ d.StumblesOverAbsent v := by
  rw [requirePlaceholder, Label.spell_of_isWritable hslot, ok_bind, unreported_bind, unreported_placeholder,
    StumblesOverAbsent]
  refine or_congr_right (exists_congr fun p => and_congr_right fun hp => ?_)
  by_cases hs : v.same p = true
  · rw [if_pos hs]
    simp [hs, Unreported]
  · rw [if_neg hs, unreported_error, Fault.isReported_iff]
    simp [hs, Fault.kind, FaultKind.isReported, Fault.spelled, isWritable_placeholder hp,
      Label.all_isWritable_numbers, hslot]

/-- The name of a slot is written out before anything else is looked at. -/
theorem unreported_requirePlaceholder_of_not_isWritable [Memory] {slot : Label} (hslot : slot.isWritable = false) :
    Unreported (d.requirePlaceholder v slot) := by
  rw [requirePlaceholder, unreported_bind]
  exact .inl (Label.unreported_spell.mpr hslot)

theorem encodeEach_eq_mapM (encode : Datum → Except Fault (List Bytes)) (xs : List Datum) :
    encodeEach encode xs = (xs.mapM encode).map List.flatten := by
  induction xs with
  | nil => rfl
  | cons x xs ih =>
    rw [encodeEach, ih, List.mapM_cons]
    cases encode x with
    | error e => rfl
    | ok s => cases xs.mapM encode <;> rfl

/-- The field of a dict, written. -/
def encodeEntry [Memory] (es : List (Datum × Datum)) (f : String × Descriptor) : Except Fault (List Bytes) :=
  match Datum.find? f.1 es with
  | none => .error .missingKey
  | some v => f.2.encode v

theorem encodeFields_eq_mapM [Memory] (fs : List (String × Descriptor)) (es : List (Datum × Datum)) :
    encodeFields fs es = (fs.mapM (encodeEntry es)).map List.flatten := by
  induction fs with
  | nil => rfl
  | cons f fs ih =>
    rw [encodeFields, ih, List.mapM_cons, encodeEntry]
    cases Datum.find? f.1 es with
    | none => rfl
    | some v =>
      dsimp only
      cases f.2.encode v with
      | error e => rfl
      | ok s => cases fs.mapM (encodeEntry es) <;> rfl

theorem exists_find?_of_namesMatch {names : List String} {es : List (Datum × Datum)}
    (h : namesMatch names (es.map Prod.fst) = true) {k : String} (hk : k ∈ names) :
    ∃ v, Datum.find? k es = some v := by
  simp only [namesMatch, Bool.and_eq_true, List.all_eq_true, List.any_eq_true] at h
  obtain ⟨l, hl, hs⟩ := h.2 k hk
  obtain rfl := Datum.same_text.mp hs
  clear h hs
  induction es with
  | nil => simp at hl
  | cons e es ih =>
    by_cases he : e.1 = .text k
    · obtain ⟨_, v⟩ := e
      cases he
      exact ⟨v, if_pos rfl⟩
    · rw [Datum.find?_cons_of_ne he]
      refine ih ?_
      simpa [Ne.symm he] using hl

/-- The name of the descriptor is written out in view of the value, in a complaint or ahead of one. The names
that never hold a number are all taken to be. -/
def Spells : Descriptor → Datum → Prop
  | .bytes n, v => ¬ ∃ b, v.bytes? = some b ∧ b.length = n
  | .vector n _, v => ¬ ∃ xs, vectorItems? v = some xs ∧ xs.length = n
  | .maybe _, .maybe a _ => a.truth = false
  | _, _ => True

/-- Encoding stumbles over the value. What stands before the obstacle has been written. -/
inductive StumblesOver [Memory] : Descriptor → Datum → Prop
  | name {d : Descriptor} {v : Datum} (hs : d.Spells v) (hw : d.name.isWritable = false) : StumblesOver d v
  | number {max width : Nat} {v : Datum} {i : Int} (hv : v.integer? = some i) (hi : ¬ (0 ≤ i ∧ i ≤ max))
    (hw : Text.isWritable i = false) : StumblesOver (.uint max width) v
  | ordinal {max width : Nat} {cls : Option EnumClass} {v : Datum} {i : Int} (hv : v.integer? = some i)
    (hi : ¬ (0 ≤ i ∧ i ≤ max)) (hw : Text.isWritable i = false) : StumblesOver (.enum max width cls) v
  | element {v : Datum} {i : Int} (hv : v.integer? = some i) (hi : ¬ (0 ≤ i ∧ i < (1 <<< 256 : Nat)))
    (hw : Text.isWritable i = false) : StumblesOver .field v
  | room {length : Nat} {v : Datum} {b : Bytes} (hv : v.bytes? = some b) (hb : b.length = length)
    (hn : Memory.available < length) : StumblesOver (.bytes length) v
  | text (t : Text.Broken) : StumblesOver .text (.broken t)
  | item {count : Nat} {e : Descriptor} {v x : Datum} {before after : List Datum}
    (hv : vectorItems? v = some (before ++ x :: after)) (hn : (before ++ x :: after).length = count)
    (hbefore : ∀ y ∈ before, ∃ s, e.encode y = .ok s) (h : StumblesOver e x) :
    StumblesOver (.vector count e) v
  | absent {p : Descriptor} {a x : Datum} (ha : a.truth = false) (h : p.StumblesOverAbsent x) :
    StumblesOver (.maybe p) (.maybe a x)
  | payload {p : Descriptor} {a x : Datum} (ha : a.truth = false → p.IsPlaceholder x)
    (h : StumblesOver p x) : StumblesOver (.maybe p) (.maybe a x)
  | unselectedRight {l r : Descriptor} {a x y : Datum} (ha : a.truth = true)
    (h : r.StumblesOverAbsent y) : StumblesOver (.either l r) (.either a x y)
  | unselectedLeft {l r : Descriptor} {a x y : Datum} (ha : a.truth = false)
    (h : l.StumblesOverAbsent x) : StumblesOver (.either l r) (.either a x y)
  | left {l r : Descriptor} {a x y : Datum}
    (ha : if a.truth then r.IsPlaceholder y else l.IsPlaceholder x) (h : StumblesOver l x) :
    StumblesOver (.either l r) (.either a x y)
  | right {l r : Descriptor} {a x y : Datum}
    (ha : if a.truth then r.IsPlaceholder y else l.IsPlaceholder x) (hl : ∃ s, l.encode x = .ok s)
    (h : StumblesOver r y) : StumblesOver (.either l r) (.either a x y)
  | unordered {name : String} {fs : List (String × Descriptor)} {es : List (Datum × Datum)}
    (hn : namesMatch (fs.map Prod.fst) (es.map Prod.fst) = false)
    (hs : Datum.sorted? (es.map Prod.fst) = none) : StumblesOver (.struct name fs) (.dict es)
  | key {name : String} {fs : List (String × Descriptor)} {es : List (Datum × Datum)} {k : Datum}
    {got : List Datum} (hn : namesMatch (fs.map Prod.fst) (es.map Prod.fst) = false)
    (hs : Datum.sorted? (es.map Prod.fst) = some got) (hk : k ∈ got) (hw : k.isWritable = false) :
    StumblesOver (.struct name fs) (.dict es)
  | entry {name : String} {fs before after : List (String × Descriptor)} {f : String × Descriptor}
    {es : List (Datum × Datum)} {v : Datum}
    (hn : namesMatch (fs.map Prod.fst) (es.map Prod.fst) = true) (hf : fs = before ++ f :: after)
    (hbefore : ∀ g ∈ before, ∃ s, encodeEntry es g = .ok s) (hv : Datum.find? f.1 es = some v)
    (h : StumblesOver f.2 v) : StumblesOver (.struct name fs) (.dict es)

section

variable {name : String} {fs : List (String × Descriptor)} {es : List (Datum × Datum)}

theorem unreported_encodeInteger {name : Label} {max : Nat} : Unreported (encodeInteger name max v) ↔
    name.isWritable = false ∨
      ∃ i, v.integer? = some i ∧ ¬ (0 ≤ i ∧ i ≤ max) ∧ Text.isWritable i = false := by
  rw [encodeInteger, unreported_bind, Label.unreported_spell]
  refine or_congr_right' fun hname => ?_
  rw [Bool.not_eq_false] at hname
  simp only [Label.spell_of_isWritable hname, true_and, exists_const]
  cases v.integer? with
  | none =>
    have hnone : ¬ Unreported (.error (.notAnInteger name v) : Except Fault (List Bytes)) := by
      rw [Label.unreported_error rfl rfl, hname]
      simp
    exact iff_of_false hnone (by simp)
  | some i =>
    simp only [Option.some.injEq, exists_eq_left']
    by_cases hi : 0 ≤ i ∧ i ≤ max
    · rw [if_pos hi]
      exact iff_of_false (not_unreported_ok _) (fun h => h.1 hi)
    · rw [if_neg hi, throw_eq_error, Label.unreported_error_of_cons rfl rfl, hname, and_iff_right hi]
      simp

theorem unreported_encodeField : Unreported (encodeField v) ↔
    ∃ i, v.integer? = some i ∧ ¬ (0 ≤ i ∧ i < (1 <<< 256 : Nat)) ∧ Text.isWritable i = false := by
  unfold encodeField
  cases v.integer? with
  | none =>
    exact iff_of_false (not_unreported_error rfl rfl) (by simp)
  | some i =>
    dsimp only
    rw [unreported_unless rfl rfl]
    simp only [Option.some.injEq, exists_eq_left']
    rfl

theorem unreported_encodeBytes [Memory] {n : Nat} : Unreported (encodeBytes n v) ↔
    ((bytes n).Spells v ∧ (bytes n).name.isWritable = false) ∨
      ∃ b, v.bytes? = some b ∧ b.length = n ∧ Memory.available < n := by
  unfold encodeBytes
  cases hv : v.bytes? with
  | none =>
    rw [Label.unreported_error rfl rfl]
    simp [Spells, hv]
  | some b =>
    by_cases hb : b.length = n
    · simp only [if_pos hb]
      rw [unreported_map, Memory.unreported_request]
      simp [Spells, hv, hb]
    · simp only [if_neg hb]
      rw [Label.unreported_error rfl rfl]
      simp [Spells, hv, hb]

theorem unreported_refuseNames {names : List String} {keys : List Datum} :
    Unreported (.error (refuseNames name names keys) : Except Fault (List Bytes)) ↔
      Datum.sorted? keys = none ∨ ∃ got, Datum.sorted? keys = some got ∧ ∃ k ∈ got, k.isWritable = false := by
  rw [unreported_error, refuseNames]
  cases Datum.sorted? keys with
  | none => simp [Fault.isReported_iff, Fault.kind, FaultKind.isReported]
  | some got => simp [Fault.isReported_iff, Fault.kind, FaultKind.isReported, Fault.spelled]

variable [Memory]

theorem unreported_encodeEntry {f : String × Descriptor}
    (hn : namesMatch (fs.map Prod.fst) (es.map Prod.fst) = true) (hf : f ∈ fs) :
    Unreported (encodeEntry es f) ↔ ∃ v, Datum.find? f.1 es = some v ∧ Unreported (f.2.encode v) := by
  obtain ⟨v, hv⟩ := exists_find?_of_namesMatch hn (List.mem_map_of_mem hf)
  simp [encodeEntry, hv]

theorem unreported_encode_vector {n : Nat} {e : Descriptor} : Unreported ((vector n e).encode v) ↔
    ((vector n e).Spells v ∧ (vector n e).name.isWritable = false) ∨
    ∃ before x after, vectorItems? v = some (before ++ x :: after) ∧ (before ++ x :: after).length = n ∧
      (∀ y ∈ before, ∃ s, e.encode y = .ok s) ∧ Unreported (e.encode x) := by
  rw [encode]
  cases hv : vectorItems? v with
  | none =>
    dsimp only
    rw [Label.unreported_error rfl rfl]
    simp [Spells, hv]
  | some xs =>
    by_cases hn : xs.length = n
    · have hspells : ¬ (vector n e).Spells v := by simp [Spells, hv, hn]
      dsimp only
      rw [if_pos hn, encodeEach_eq_mapM, unreported_map, unreported_mapM, or_iff_right (hspells ·.1)]
      simp only [exists_mapM_ok]
      constructor
      · rintro ⟨before, x, after, rfl, hbefore, h⟩
        exact ⟨before, x, after, rfl, hn, hbefore, h⟩
      · rintro ⟨before, x, after, hx, -, hbefore, h⟩
        exact ⟨before, x, after, Option.some.inj hx, hbefore, h⟩
    · have hspells : (vector n e).Spells v := by simp [Spells, hv, hn]
      dsimp only
      rw [if_neg hn, Label.unreported_error rfl rfl, and_iff_right hspells, or_iff_left]
      rintro ⟨before, x, after, hx, hlen, -⟩
      cases hx
      exact hn hlen

theorem encode_maybe_eq {p : Descriptor} {a x : Datum} : (maybe p).encode (.maybe a x) =
    (if a.truth then .ok () else p.requirePlaceholder x ((maybe p).name ++ " absent payload")) >>= fun _ =>
      (p.encode x).map fun payload => flag a.truth :: payload := by
  rw [encode]
  cases a.truth with
  | true => cases p.encode x <;> rfl
  | false =>
    cases p.requirePlaceholder x ((maybe p).name ++ " absent payload") with
    | error e => rfl
    | ok u => cases p.encode x <;> rfl

theorem encode_either_eq {l r : Descriptor} {a x y : Datum} : (either l r).encode (.either a x y) =
    (if a.truth then r.requirePlaceholder y ((either l r).name ++ " unselected right")
      else l.requirePlaceholder x ((either l r).name ++ " unselected left")) >>= fun _ =>
      l.encode x >>= fun left => (r.encode y).map fun right => flag a.truth :: (left ++ right) := by
  rw [encode]
  have hparts : ∀ b, (l.encode x >>= fun left => r.encode y >>= fun right =>
      (pure (flag b :: (left ++ right)) : Except Fault (List Bytes))) =
      l.encode x >>= fun left => (r.encode y).map fun right => flag b :: (left ++ right) := by
    intro b
    cases l.encode x with
    | error e => rfl
    | ok left => cases r.encode y <;> rfl
  cases a.truth with
  | true => exact congrArg (r.requirePlaceholder y _ >>= ·) (funext fun _ => hparts true)
  | false => exact congrArg (l.requirePlaceholder x _ >>= ·) (funext fun _ => hparts false)

theorem unreported_encode_maybe {p : Descriptor} {a x : Datum} :
    Unreported ((maybe p).encode (.maybe a x)) ↔
      (a.truth = false ∧ (maybe p).name.isWritable = false) ∨ (a.truth = false ∧ p.StumblesOverAbsent x) ∨
      (a.truth = false → p.IsPlaceholder x) ∧ Unreported (p.encode x) := by
  rw [encode_maybe_eq, unreported_bind]
  cases a.truth with
  | true => simp [unreported_map, not_unreported_ok]
  | false =>
    cases hname : (maybe p).name.isWritable with
    | true =>
      have hslot := isWritable_slot hname " absent payload"
      simp [unreported_map, unreported_requirePlaceholder hslot, exists_requirePlaceholder hslot]
    | false =>
      have hslot : ((maybe p).name ++ " absent payload" : Label).isWritable = false := by simpa using hname
      simp [unreported_requirePlaceholder_of_not_isWritable hslot]

theorem unreported_encode_either {l r : Descriptor} {a x y : Datum} :
    Unreported ((either l r).encode (.either a x y)) ↔ (either l r).name.isWritable = false ∨
      (if a.truth then r.StumblesOverAbsent y else l.StumblesOverAbsent x) ∨
      (if a.truth then r.IsPlaceholder y else l.IsPlaceholder x) ∧
        (Unreported (l.encode x) ∨ (∃ s, l.encode x = .ok s) ∧ Unreported (r.encode y)) := by
  rw [encode_either_eq]
  simp only [unreported_bind, unreported_map]
  cases hname : (either l r).name.isWritable with
  | true =>
    have hslot := isWritable_slot hname
    cases a.truth with
    | true => simp [unreported_requirePlaceholder (hslot _), exists_requirePlaceholder (hslot _)]
    | false => simp [unreported_requirePlaceholder (hslot _), exists_requirePlaceholder (hslot _)]
  | false =>
    have hslot : ∀ words : String, ((either l r).name ++ words : Label).isWritable = false := by
      simpa using hname
    cases a.truth with
    | true => simp [unreported_requirePlaceholder_of_not_isWritable (hslot _)]
    | false => simp [unreported_requirePlaceholder_of_not_isWritable (hslot _)]

theorem unreported_encode_struct : Unreported ((struct name fs).encode (.dict es)) ↔
    (namesMatch (fs.map Prod.fst) (es.map Prod.fst) = false ∧
      (Datum.sorted? (es.map Prod.fst) = none ∨
        ∃ got, Datum.sorted? (es.map Prod.fst) = some got ∧ ∃ k ∈ got, k.isWritable = false)) ∨
    namesMatch (fs.map Prod.fst) (es.map Prod.fst) = true ∧
      ∃ before f after v, fs = before ++ f :: after ∧ (∀ g ∈ before, ∃ s, encodeEntry es g = .ok s) ∧
        Datum.find? f.1 es = some v ∧ Unreported (f.2.encode v) := by
  rw [encode]
  cases hn : namesMatch (fs.map Prod.fst) (es.map Prod.fst) with
  | false =>
    simp only [Bool.false_eq_true, if_false, unreported_refuseNames]
    simp
  | true =>
    simp only [if_true, encodeFields_eq_mapM, unreported_map, unreported_mapM, exists_mapM_ok]
    simp only [Bool.true_eq_false, false_and, false_or, true_and]
    constructor
    · rintro ⟨before, f, after, rfl, hbefore, h⟩
      obtain ⟨v, hv, h⟩ := (unreported_encodeEntry hn (by simp)).mp h
      exact ⟨before, f, after, v, rfl, hbefore, hv, h⟩
    · rintro ⟨before, f, after, v, rfl, hbefore, hv, h⟩
      exact ⟨before, f, after, rfl, hbefore, (unreported_encodeEntry hn (by simp)).mpr ⟨v, hv, h⟩⟩

theorem unreported_encode_text : Unreported (text.encode v) ↔ ∃ t, v = .broken t := by
  cases v with
  | text s => exact iff_of_false (not_unreported_ok _) (by simp)
  | broken t =>
    refine iff_of_true (unreported_error.mpr ?_) ⟨t, rfl⟩
    exact Fault.not_isReported_of_kind rfl
  | _ => exact iff_of_false (not_unreported_error rfl rfl) (by simp)

theorem stumblesOver_vector {n : Nat} {e : Descriptor} : (vector n e).StumblesOver v ↔
    ((vector n e).Spells v ∧ (vector n e).name.isWritable = false) ∨
    ∃ before x after, vectorItems? v = some (before ++ x :: after) ∧ (before ++ x :: after).length = n ∧
      (∀ y ∈ before, ∃ s, e.encode y = .ok s) ∧ e.StumblesOver x := by
  constructor
  · intro h
    cases h with
    | name hs hname => exact .inl ⟨hs, hname⟩
    | item hv hn hbefore h => exact .inr ⟨_, _, _, hv, hn, hbefore, h⟩
  · rintro (⟨hs, hname⟩ | ⟨before, x, after, hv, hn, hbefore, h⟩)
    · exact .name hs hname
    · exact .item hv hn hbefore h

theorem stumblesOver_maybe {p : Descriptor} {a x : Datum} : (maybe p).StumblesOver (.maybe a x) ↔
    (a.truth = false ∧ (maybe p).name.isWritable = false) ∨ (a.truth = false ∧ p.StumblesOverAbsent x) ∨
      (a.truth = false → p.IsPlaceholder x) ∧ p.StumblesOver x := by
  constructor
  · intro h
    cases h with
    | name ha hname => exact .inl ⟨ha, hname⟩
    | absent ha h => exact .inr (.inl ⟨ha, h⟩)
    | payload ha h => exact .inr (.inr ⟨ha, h⟩)
  · rintro (⟨ha, hname⟩ | ⟨ha, h⟩ | ⟨ha, h⟩)
    · exact .name ha hname
    · exact .absent ha h
    · exact .payload ha h

theorem stumblesOver_either {l r : Descriptor} {a x y : Datum} :
    (either l r).StumblesOver (.either a x y) ↔ (either l r).name.isWritable = false ∨
      (if a.truth then r.StumblesOverAbsent y else l.StumblesOverAbsent x) ∨
      (if a.truth then r.IsPlaceholder y else l.IsPlaceholder x) ∧
        (l.StumblesOver x ∨ (∃ s, l.encode x = .ok s) ∧ r.StumblesOver y) := by
  constructor
  · intro h
    cases h with
    | name _ hname => exact .inl hname
    | unselectedRight ha h => exact .inr (.inl (by rwa [ha, if_pos rfl]))
    | unselectedLeft ha h => exact .inr (.inl (by rwa [ha, if_neg (by decide)]))
    | left ha h => exact .inr (.inr ⟨ha, .inl h⟩)
    | right ha hl h => exact .inr (.inr ⟨ha, .inr ⟨hl, h⟩⟩)
  · rintro (hname | h | ⟨ha, h | ⟨hl, h⟩⟩)
    · exact .name trivial hname
    · cases ha : a.truth with
      | true => exact .unselectedRight ha (by rwa [ha, if_pos rfl] at h)
      | false => exact .unselectedLeft ha (by rwa [ha, if_neg (by decide)] at h)
    · exact .left ha h
    · exact .right ha hl h

theorem stumblesOver_struct : (struct name fs).StumblesOver (.dict es) ↔
    (namesMatch (fs.map Prod.fst) (es.map Prod.fst) = false ∧
      (Datum.sorted? (es.map Prod.fst) = none ∨
        ∃ got, Datum.sorted? (es.map Prod.fst) = some got ∧ ∃ k ∈ got, k.isWritable = false)) ∨
    namesMatch (fs.map Prod.fst) (es.map Prod.fst) = true ∧
      ∃ before f after v, fs = before ++ f :: after ∧ (∀ g ∈ before, ∃ s, encodeEntry es g = .ok s) ∧
        Datum.find? f.1 es = some v ∧ f.2.StumblesOver v := by
  constructor
  · intro h
    cases h with
    | name _ hname => cases hname
    | unordered hn hs => exact .inl ⟨hn, .inl hs⟩
    | key hn hs hk hw => exact .inl ⟨hn, .inr ⟨_, hs, _, hk, hw⟩⟩
    | entry hn hf hbefore hv h => exact .inr ⟨hn, _, _, _, _, hf, hbefore, hv, h⟩
  · rintro (⟨hn, hs | ⟨got, hs, k, hk, hw⟩⟩ | ⟨hn, before, f, after, v, hf, hbefore, hv, h⟩)
    · exact .unordered hn hs
    · exact .key hn hs hk hw
    · exact .entry hn hf hbefore hv h

theorem unreported_encode : Unreported (d.encode v) ↔ d.StumblesOver v := by
  induction d generalizing v with
  | uint max width =>
    rw [encode, unreported_encodeInteger]
    constructor
    · rintro (hname | ⟨_, hv, hi, hw⟩)
      · exact .name trivial hname
      · exact .number hv hi hw
    · intro h
      cases h with
      | name _ hname => exact .inl hname
      | number hv hi hw => exact .inr ⟨_, hv, hi, hw⟩
  | enum max width cls =>
    rw [encode, unreported_encodeInteger]
    constructor
    · rintro (hname | ⟨_, hv, hi, hw⟩)
      · exact .name trivial hname
      · exact .ordinal hv hi hw
    · intro h
      cases h with
      | name _ hname => exact .inl hname
      | ordinal hv hi hw => exact .inr ⟨_, hv, hi, hw⟩
  | bytes n =>
    rw [encode, unreported_encodeBytes]
    constructor
    · rintro (⟨hs, hname⟩ | ⟨_, hv, hb, hn⟩)
      · exact .name hs hname
      · exact .room hv hb hn
    · intro h
      cases h with
      | name hs hname => exact .inl ⟨hs, hname⟩
      | room hv hb hn => exact .inr ⟨_, hv, hb, hn⟩
  | bool =>
    have hn : ¬ Unreported (bool.encode v) := by
      unfold encode
      split
      · exact not_unreported_ok _
      · exact not_unreported_error rfl rfl
    refine iff_of_false hn fun h => ?_
    cases h with
    | name _ hname => cases hname
  | text =>
    rw [unreported_encode_text]
    constructor
    · rintro ⟨t, rfl⟩
      exact .text t
    · intro h
      cases h with
      | name _ hname => cases hname
      | text t => exact ⟨t, rfl⟩
  | field =>
    rw [encode, unreported_encodeField]
    constructor
    · rintro ⟨_, hv, hi, hw⟩
      exact .element hv hi hw
    · intro h
      cases h with
      | name _ hname => cases hname
      | element hv hi hw => exact ⟨_, hv, hi, hw⟩
  | vector n e ih => simp only [unreported_encode_vector, stumblesOver_vector, ih]
  | maybe p ih =>
    cases v with
    | maybe a x => rw [unreported_encode_maybe, stumblesOver_maybe, ih]
    | _ =>
      refine (Label.unreported_error rfl rfl).trans ⟨.name trivial, fun h => ?_⟩
      cases h with
      | name _ hname => exact hname
  | either l r ihl ihr =>
    cases v with
    | either a x y => rw [unreported_encode_either, stumblesOver_either, ihl, ihr]
    | _ =>
      refine (Label.unreported_error rfl rfl).trans ⟨.name trivial, fun h => ?_⟩
      cases h with
      | name _ hname => exact hname
  | struct name fs ih =>
    cases v with
    | dict es =>
      rw [unreported_encode_struct, stumblesOver_struct]
      refine or_congr_right (and_congr_right fun _ => ?_)
      refine exists_congr fun before => exists_congr fun f => exists_congr fun after => exists_congr fun v => ?_
      refine and_congr_right fun hf => and_congr_right fun _ => and_congr_right fun _ => ih f ?_
      rw [hf]
      exact List.mem_append_cons_self
    | _ =>
      refine iff_of_false (not_unreported_error rfl rfl) fun h => ?_
      cases h with
      | name _ hname => cases hname

end

theorem reportsOnly_encodeInteger {name : Label} {max : Nat} :
    ReportsOnly .descriptor (encodeInteger name max v) := by
  refine .bind Label.reportsOnly_spell fun _ => ?_
  split
  · exact .error rfl
  · split
    · exact .ok _
    · exact .error rfl

theorem reportsOnly_encodeField : ReportsOnly .descriptor (encodeField v) := by
  unfold encodeField
  split
  · exact .error rfl
  · split
    · exact .ok _
    · exact .error rfl

theorem reportsOnly_encodeBytes [Memory] {n : Nat} : ReportsOnly .descriptor (encodeBytes n v) := by
  unfold encodeBytes
  split
  · exact .error rfl
  · split
    · exact .map (.of_not_isReported fun _ => Memory.not_isReported_of_request)
    · exact .error rfl

theorem reportsOnly_requirePlaceholder [Memory] {slot : Label} :
    ReportsOnly .descriptor (d.requirePlaceholder v slot) := by
  refine .bind Label.reportsOnly_spell fun _ =>
    .bind (.of_not_isReported fun _ => not_isReported_of_placeholder) fun p => ?_
  split
  · exact .ok _
  · exact .error rfl

theorem reportsOnly_refuseNames {name : String} {names : List String} {keys : List Datum} :
    ReportsOnly .descriptor (.error (refuseNames name names keys) : Except Fault (List Bytes)) := by
  unfold refuseNames
  split
  · exact .error rfl
  · refine .of_not_isReported ?_
    rintro _ ⟨⟩
    exact Fault.not_isReported_of_kind rfl

variable [Memory]

theorem reportsOnly_encode : ReportsOnly .descriptor (d.encode v) := by
  induction d generalizing v with
  | uint max width => exact reportsOnly_encodeInteger
  | enum max width cls => exact reportsOnly_encodeInteger
  | bytes n => exact reportsOnly_encodeBytes
  | bool =>
    unfold encode
    split
    · exact .ok _
    · exact .error rfl
  | text =>
    unfold encode
    split
    · exact .ok _
    · refine .of_not_isReported ?_
      rintro _ ⟨⟩
      exact Fault.not_isReported_of_kind rfl
    · exact .error rfl
  | field => exact reportsOnly_encodeField
  | vector n e ih =>
    rw [encode]
    split
    · exact .error rfl
    · split
      · rw [encodeEach_eq_mapM]
        exact .map (.mapM fun x _ => ih)
      · exact .error rfl
  | maybe p ih =>
    cases v with
    | maybe a x =>
      rw [encode_maybe_eq]
      refine .bind ?_ fun _ => .map ih
      split
      · exact .ok _
      · exact reportsOnly_requirePlaceholder
    | _ => exact .error rfl
  | either l r ihl ihr =>
    cases v with
    | either a x y =>
      rw [encode_either_eq]
      refine .bind ?_ fun _ => .bind ihl fun _ => .map ihr
      split <;> exact reportsOnly_requirePlaceholder
    | _ => exact .error rfl
  | struct name fs ih =>
    cases v with
    | dict es =>
      rw [encode]
      split
      · rw [encodeFields_eq_mapM]
        refine .map (.mapM fun f hf => ?_)
        unfold encodeEntry
        split
        · exact .of_not_isReported fun e he => by
            cases he
            exact Fault.not_isReported_of_kind rfl
        · exact ih f hf
      · exact reportsOnly_refuseNames
    | _ => exact .error rfl

theorem encode_told : (∃ e, d.encode v = .error e ∧ e.told.kind ≠ .descriptor) ↔ d.StumblesOver v :=
  (reportsOnly_encode.exists_told_ne rfl).trans unreported_encode

end Descriptor

namespace Witnesses

variable {name : String} {d : Descriptor} {given : Datum}

/-- The report about a value also names what it should have been. -/
theorem unreported_witnessValue {e : Fault} (he : e.IsReported) :
    Unreported (.error (.witnessValue name d.name e) : Except Fault (Datum × Datum)) ↔
      d.name.isWritable = false := by
  rw [unreported_error, Fault.isReported_iff, Fault.spelled, List.all_append, Label.all_isWritable_numbers,
    (Fault.isReported_iff.mp he).2]
  simp [Fault.kind, FaultKind.isReported]

variable [Memory]

theorem unreported_checkReturn : Unreported (checkReturn name given d) ↔
    ∃ privateState v, given = .tuple [privateState, v] ∧
      (Unreported (d.encode v) ∨ d.name.isWritable = false ∧ ∃ e, d.encode v = .error e) := by
  unfold checkReturn
  split
  · next privateState v =>
    simp only [Datum.tuple.injEq, List.cons.injEq, and_true, ↓existsAndEq]
    cases he : d.encode v with
    | ok s => simp [not_unreported_ok]
    | error e =>
      dsimp only
      have hkind := Descriptor.reportsOnly_encode e he
      split
      · next hk =>
        have hr : e.IsReported := by rw [Fault.IsReported, hk]; rfl
        rw [unreported_witnessValue hr]
        simp [unreported_error, hr]
      · next hk =>
        have hr : ¬ e.IsReported := fun hr => hk (by rw [Fault.told_of_isReported hr, hkind hr])
        simp [unreported_error, Fault.isReported_told, hr]
  · next hg =>
    refine ⟨fun h => absurd h (not_unreported_error rfl rfl), ?_⟩
    rintro ⟨p, v, rfl, -⟩
    exact absurd rfl (hg p v)

theorem reportsOnly_checkReturn : ReportsOnly .shape (checkReturn name given d) := by
  unfold checkReturn
  split
  · split
    · exact .ok _
    · next e he =>
      split
      · exact .error rfl
      · next hk =>
        refine .of_not_isReported ?_
        rintro _ ⟨⟩ hr
        rw [Fault.isReported_told] at hr
        exact hk (by rw [Fault.told_of_isReported hr, Descriptor.reportsOnly_encode e he hr])
  · exact .error rfl

theorem checkReturn_told :
    (∃ e, checkReturn name given d = .error e ∧ e.told.kind ≠ .shape) ↔
      ∃ privateState v, given = .tuple [privateState, v] ∧
        (d.StumblesOver v ∨ d.name.isWritable = false ∧ ∃ e, d.encode v = .error e) := by
  rw [reportsOnly_checkReturn.exists_told_ne rfl, unreported_checkReturn]
  simp only [Descriptor.unreported_encode]

end Witnesses

end AlignedLedger
