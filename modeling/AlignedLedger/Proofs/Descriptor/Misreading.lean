import AlignedLedger.Proofs.Descriptor.Refusal
import AlignedLedger.Proofs.Tree.Corrupt

/-! How segments are refused. Reading fails with a report of its own kind, except where it stumbles: over a
number, a slot or a name that is too long for the message, or over a placeholder that does not exist. -/

namespace AlignedLedger

open SegmentReader

/-- Taking a segment for the slot stumbles: none is left or the next one is too wide, and the width of the
slot is too long for the message about it. -/
def Atom.StumblesIn (a : Atom) (segments : List Datum) : Prop :=
  (Datum.int a.length).isWritable = false ∧
    (segments = [] ∨ ∃ s b rest, segments = s :: rest ∧ s.bytes? = some b ∧ ¬ a.Holds (a.normalize b))

namespace SegmentReader

variable {a : Atom} {segments : List Datum}

theorem attempt_take_cons {d : Datum} {rest : List Datum} :
    attempt (take a) (d :: rest) = (a.checkDatum d).map fun s => (s, rest) := by
  cases h : a.checkDatum d <;> simp [attempt, take, h]

theorem unreported_take : Unreported (attempt (take a) segments) ↔ a.StumblesIn segments := by
  cases segments with
  | nil =>
    have hf : attempt (take a) [] = .error (.outOfSegments a) := rfl
    rw [hf, unreported_error_of_spelled rfl rfl, Atom.StumblesIn]
    simp
  | cons d rest =>
    rw [attempt_take_cons, unreported_map, Atom.checkDatum, Atom.StumblesIn]
    cases hd : d.bytes? with
    | none =>
      exact iff_of_false (not_unreported_error rfl rfl) (by simp [hd])
    | some b =>
      dsimp only
      rw [Atom.checkSegment, unreported_map, AlignedValue.unreported_ofSegment]
      simp [hd, and_comm]

theorem reportsOnly_take : ReportsOnly .decode (attempt (take a) segments) := by
  cases segments with
  | nil => exact .error rfl
  | cons d rest =>
    rw [attempt_take_cons]
    refine .map ?_
    unfold Atom.checkDatum
    split
    · refine .map ?_
      unfold Slot.ofSegment
      dsimp only
      split
      · exact .ok _
      · exact .error rfl
    · exact .error rfl

theorem reportsOnly_skip {n : Nat} : ReportsOnly .decode (attempt (skip n) segments) := by
  unfold attempt skip
  by_cases hn : n ≤ segments.length
  · rw [if_pos hn]
    exact .ok _
  · rw [if_neg hn]
    exact .error rfl

theorem not_unreported_skip {n : Nat} : ¬ Unreported (attempt (skip n) segments) := by
  unfold attempt skip
  by_cases hn : n ≤ segments.length
  · rw [if_pos hn]
    exact not_unreported_ok _
  · rw [if_neg hn]
    exact not_unreported_error rfl rfl

theorem unreported_takeNat : Unreported (attempt (takeNat a) segments) ↔ a.StumblesIn segments := by
  rw [takeNat, unreported_attempt_bind, unreported_take]
  simp [not_unreported_ok]

/-- Reading stumbles after some of the values have been read. -/
theorem unreported_times {n : Nat} {read : SegmentReader Datum} :
    Unreported (attempt (times n read) segments) ↔
      ∃ k ws rest, k < n ∧ times k read segments = .ok ws rest ∧ Unreported (attempt read rest) := by
  induction n generalizing segments with
  | zero => simp [times, not_unreported_ok]
  | succ n ih =>
    rw [times, unreported_attempt_bind]
    constructor
    · rintro (h | ⟨w, t, hw, h⟩)
      · exact ⟨0, [], segments, Nat.succ_pos n, rfl, h⟩
      · rcases unreported_attempt_bind.mp h with h | ⟨_, _, -, h⟩
        · obtain ⟨k, ws, rest, hk, hws, h⟩ := ih.mp h
          refine ⟨k + 1, w :: ws, rest, Nat.succ_lt_succ hk, ?_, h⟩
          rw [times, bind_run_of_ok hw, bind_run_of_ok hws]
          rfl
        · exact absurd h (not_unreported_ok _)
    · rintro ⟨k, ws, rest, hk, hws, h⟩
      cases k with
      | zero =>
        cases hws
        exact .inl h
      | succ k =>
        obtain ⟨w, t, hw, hws⟩ := bind_run_eq_ok.mp hws
        obtain ⟨ws', t', hws', ⟨⟩⟩ := bind_run_eq_ok.mp hws
        refine .inr ⟨w, t, hw, unreported_attempt_bind.mpr (.inl ?_)⟩
        exact ih.mpr ⟨k, ws', rest, Nat.lt_of_succ_lt_succ hk, hws', h⟩

theorem reportsOnly_times {n : Nat} {read : SegmentReader Datum}
    (h : ∀ segments, ReportsOnly .decode (attempt read segments)) :
    ReportsOnly .decode (attempt (times n read) segments) := by
  induction n generalizing segments with
  | zero => exact .ok _
  | succ n ih => exact .attempt_bind (h segments) fun w t => .attempt_bind ih fun ws t => .ok _

end SegmentReader

namespace Descriptor

variable {d : Descriptor} {segments : List Datum}

/-- Reading stumbles in the segments. What stands before the obstacle has been read. -/
inductive StumblesIn [Memory] : Descriptor → List Datum → Prop
  | slot {max width : Nat} {segments : List Datum} (h : (Atom.bytes width).StumblesIn segments) :
    StumblesIn (.uint max width) segments
  | excess {max width n : Nat} {segments rest : List Datum}
    (hn : takeNat (.bytes width) segments = .ok n rest) (hmax : max < n)
    (hw : Text.isWritable n = false) : StumblesIn (.uint max width) segments
  | ordinalSlot {max width : Nat} {cls : Option EnumClass} {segments : List Datum}
    (h : (Atom.bytes width).StumblesIn segments) : StumblesIn (.enum max width cls) segments
  | ordinalExcess {max width n : Nat} {cls : Option EnumClass} {segments rest : List Datum}
    (hn : takeNat (.bytes width) segments = .ok n rest) (hmax : max < n)
    (hw : Text.isWritable n = false) : StumblesIn (.enum max width cls) segments
  | gap {max width n : Nat} {c : EnumClass} {segments rest : List Datum}
    (hn : takeNat (.bytes width) segments = .ok n rest) (hmax : n ≤ max) (hc : c.member? n = none)
    (hw : Text.isWritable n = false) : StumblesIn (.enum max width (some c)) segments
  | bytesSlot {length : Nat} {segments : List Datum} (h : (Atom.bytes length).StumblesIn segments) :
    StumblesIn (.bytes length) segments
  | room {length : Nat} {b : Bytes} {segments rest : List Datum}
    (hb : take (.bytes length) segments = .ok b rest) (hn : Memory.available < length) :
    StumblesIn (.bytes length) segments
  | item {count k : Nat} {e : Descriptor} {ws segments rest : List Datum} (hk : k < count)
    (hws : times k e.read segments = .ok ws rest) (h : StumblesIn e rest) :
    StumblesIn (.vector count e) segments
  | present {p : Descriptor} {segments rest : List Datum} (hb : readBool segments = .ok true rest)
    (h : StumblesIn p rest) : StumblesIn (.maybe p) segments
  | absent {p : Descriptor} {segments rest after : List Datum} (hb : readBool segments = .ok false rest)
    (hs : p.skip rest = .ok () after) (h : p.Lacking) : StumblesIn (.maybe p) segments
  | left {l r : Descriptor} {segments rest : List Datum} (hb : readBool segments = .ok true rest)
    (h : StumblesIn l rest) : StumblesIn (.either l r) segments
  | unselectedRight {l r : Descriptor} {x : Datum} {segments rest between after : List Datum}
    (hb : readBool segments = .ok true rest) (hx : l.read rest = .ok x between)
    (hs : r.skip between = .ok () after) (h : r.Lacking) : StumblesIn (.either l r) segments
  | unselectedLeft {l r : Descriptor} {segments rest between : List Datum}
    (hb : readBool segments = .ok false rest) (hs : l.skip rest = .ok () between) (h : l.Lacking) :
    StumblesIn (.either l r) segments
  | right {l r : Descriptor} {segments rest between : List Datum}
    (hb : readBool segments = .ok false rest) (hs : l.skip rest = .ok () between) (hl : ¬ l.Lacking)
    (h : StumblesIn r between) : StumblesIn (.either l r) segments
  | entry {name : String} {fs before after : List (String × Descriptor)} {f : String × Descriptor}
    {es : List (Datum × Datum)} {segments rest : List Datum} (hf : fs = before ++ f :: after)
    (hes : readFields before segments = .ok es rest) (h : StumblesIn f.2 rest) :
    StumblesIn (.struct name fs) segments

/-- A name that is too long because of the bound stands in no other way than the number beyond it does. -/
theorem unreported_readRange {name : Label} {max width : Nat}
    (hname : name.isWritable = false → Text.isWritable max = false) :
    Unreported (attempt (readRange name max width) segments) ↔
      (Atom.bytes width).StumblesIn segments ∨
        ∃ n rest, takeNat (.bytes width) segments = .ok n rest ∧ max < n ∧ Text.isWritable n = false := by
  rw [readRange, unreported_attempt_bind, unreported_takeNat]
  refine or_congr_right (exists_congr fun n => exists_congr fun rest => and_congr_right fun _ => ?_)
  by_cases hn : max < n
  · rw [if_pos hn]
    change Unreported (.error (.exceedsRange n name) : Except Fault (Nat × List Datum)) ↔ _
    rw [Label.unreported_error_of_cons rfl rfl, and_iff_right hn, or_iff_left_iff_imp]
    exact fun hw => Text.isWritable_of_le (Nat.le_of_lt hn) (hname hw)
  · rw [if_neg hn]
    exact ⟨fun h => absurd h (not_unreported_ok _), fun h => absurd h.1 hn⟩

theorem reportsOnly_readRange {name : Label} {max width : Nat} :
    ReportsOnly .decode (attempt (readRange name max width) segments) := by
  refine .attempt_bind (.attempt_bind reportsOnly_take fun _ _ => .ok _) fun n rest => ?_
  split
  · exact .error rfl
  · exact .ok _

theorem readRange_eq_ok {name : Label} {max width n : Nat} {rest : List Datum} :
    readRange name max width segments = .ok n rest ↔
      takeNat (.bytes width) segments = .ok n rest ∧ n ≤ max := by
  rw [readRange, bind_run_eq_ok]
  constructor
  · rintro ⟨k, left, hk, h⟩
    split at h
    · cases h
    · cases h
      exact ⟨hk, by omega⟩
  · rintro ⟨hn, hmax⟩
    refine ⟨n, rest, hn, ?_⟩
    rw [if_neg (by omega)]
    rfl

theorem unreported_readEnum {max width : Nat} {cls : Option EnumClass} :
    Unreported (attempt (readEnum (enumName max cls) max width cls) segments) ↔
      Unreported (attempt (readRange (enumName max cls) max width) segments) ∨
        ∃ n rest c, takeNat (.bytes width) segments = .ok n rest ∧ n ≤ max ∧ cls = some c ∧
          c.member? n = none ∧ Text.isWritable n = false := by
  rw [readEnum, unreported_attempt_bind]
  refine or_congr_right (exists_congr fun n => exists_congr fun rest => ?_)
  rw [readRange_eq_ok, and_assoc]
  cases cls with
  | none => simp [not_unreported_ok]
  | some c =>
    cases hm : c.member? n with
    | some w => simp [hm, not_unreported_ok]
    | none =>
      have hfault : Unreported (.error (.notAMember n (enumName max (some c))) :
          Except Fault (Datum × List Datum)) ↔ Text.isWritable n = false :=
        (Label.unreported_error_of_cons rfl rfl).trans (by simp)
      simp [hm, hfault]

theorem not_unreported_readBool : ¬ Unreported (attempt readBool segments) := by
  have hlength : (Datum.int (Atom.bytes 1).length).isWritable = true :=
    Datum.isWritable_natCast (by decide)
  rw [readBool, unreported_attempt_bind, unreported_take, Atom.StumblesIn, hlength]
  rintro (⟨⟨⟩, -⟩ | ⟨s, rest, -, h⟩)
  split at h
  · exact not_unreported_ok _ h
  · split at h
    · exact not_unreported_ok _ h
    · exact not_unreported_error rfl rfl h

theorem not_unreported_readText : ¬ Unreported (attempt readText segments) := by
  have hlength : (Datum.int Atom.compress.length).isWritable = true :=
    Datum.isWritable_natCast (by decide)
  rw [readText, unreported_attempt_bind, unreported_take, Atom.StumblesIn, hlength]
  rintro (⟨⟨⟩, -⟩ | ⟨s, rest, -, h⟩)
  split at h
  · exact not_unreported_ok _ h
  · exact not_unreported_error rfl rfl h

theorem unreported_skip_bind {α : Type} {g : Unit → SegmentReader α} :
    Unreported (attempt (d.skip >>= g) segments) ↔
      ∃ rest, d.skip segments = .ok () rest ∧ Unreported (attempt (g ()) rest) := by
  have hskip : ¬ Unreported (attempt d.skip segments) := not_unreported_skip
  rw [unreported_attempt_bind, or_iff_right hskip]
  constructor
  · rintro ⟨⟨⟩, rest, h⟩
    exact ⟨rest, h⟩
  · rintro ⟨rest, h⟩
    exact ⟨(), rest, h⟩

theorem unreported_readBool_bind {α : Type} {g : Bool → SegmentReader α} :
    Unreported (attempt (readBool >>= g) segments) ↔
      (∃ rest, readBool segments = .ok true rest ∧ Unreported (attempt (g true) rest)) ∨
      ∃ rest, readBool segments = .ok false rest ∧ Unreported (attempt (g false) rest) := by
  rw [unreported_attempt_bind, or_iff_right not_unreported_readBool]
  simp [Bool.exists_bool, or_comm]

theorem reportsOnly_readBool : ReportsOnly .decode (attempt readBool segments) := by
  refine .attempt_bind reportsOnly_take fun s rest => ?_
  split
  · exact .ok _
  · split
    · exact .ok _
    · exact .error rfl

section

variable [Memory]

/-- Reading stumbles after the fields in front have been read. -/
theorem unreported_readFields {fs : List (String × Descriptor)} :
    Unreported (attempt (readFields fs) segments) ↔
      ∃ before f after es rest, fs = before ++ f :: after ∧ readFields before segments = .ok es rest ∧
        Unreported (attempt f.2.read rest) := by
  induction fs generalizing segments with
  | nil => simp [readFields, not_unreported_ok]
  | cons f fs ih =>
    rw [readFields, unreported_attempt_bind]
    constructor
    · rintro (h | ⟨w, t, hw, h⟩)
      · exact ⟨[], f, fs, [], segments, rfl, rfl, h⟩
      · rcases unreported_attempt_bind.mp h with h | ⟨_, _, -, h⟩
        · obtain ⟨before, g, after, es, rest, rfl, hes, h⟩ := ih.mp h
          refine ⟨f :: before, g, after, (.text f.1, w) :: es, rest, rfl, ?_, h⟩
          rw [readFields, bind_run_of_ok hw, bind_run_of_ok hes]
          rfl
        · exact absurd h (not_unreported_ok _)
    · rintro ⟨before, g, after, es, rest, hfs, hes, h⟩
      cases before with
      | nil =>
        obtain ⟨rfl, rfl⟩ := List.cons.inj hfs
        cases hes
        exact .inl h
      | cons f' before =>
        obtain ⟨rfl, rfl⟩ := List.cons.inj hfs
        obtain ⟨w, t, hw, hes⟩ := bind_run_eq_ok.mp hes
        obtain ⟨es', t', hes', ⟨⟩⟩ := bind_run_eq_ok.mp hes
        refine .inr ⟨w, t, hw, unreported_attempt_bind.mpr (.inl ?_)⟩
        exact ih.mpr ⟨before, g, after, es', rest, rfl, hes', h⟩

theorem unreported_read_bytes {n : Nat} : Unreported (attempt (bytes n).read segments) ↔
    (Atom.bytes n).StumblesIn segments ∨
      ∃ b rest, take (.bytes n) segments = .ok b rest ∧ Memory.available < n := by
  rw [read, unreported_attempt_bind, unreported_take]
  refine or_congr_right (exists_congr fun b => exists_congr fun rest => and_congr_right fun _ => ?_)
  rw [unreported_attempt_bind, attempt_ofExcept, unreported_map, Memory.unreported_request]
  simp [not_unreported_ok]

theorem unreported_read_vector {n : Nat} {e : Descriptor} :
    Unreported (attempt (vector n e).read segments) ↔
      ∃ k ws rest, k < n ∧ times k e.read segments = .ok ws rest ∧ Unreported (attempt e.read rest) := by
  rw [read, unreported_attempt_bind, unreported_times]
  simp [not_unreported_ok]

theorem unreported_read_struct {name : String} {fs : List (String × Descriptor)} :
    Unreported (attempt (struct name fs).read segments) ↔
      ∃ before f after es rest, fs = before ++ f :: after ∧ readFields before segments = .ok es rest ∧
        Unreported (attempt f.2.read rest) := by
  rw [read, unreported_attempt_bind, unreported_readFields]
  simp [not_unreported_ok]

/-- The placeholder is put in after the slots have been passed over. -/
theorem unreported_placeholder_bind {α : Type} {g : Datum → SegmentReader α} :
    Unreported (attempt (MonadExcept.ofExcept d.placeholder >>= g) segments) ↔
      d.Lacking ∨ ∃ x, d.placeholder = .ok x ∧ Unreported (attempt (g x) segments) := by
  rw [unreported_attempt_bind, attempt_ofExcept, unreported_map, unreported_placeholder]
  refine or_congr_right (exists_congr fun x => ?_)
  simp only [ofExcept_run_eq_ok]
  constructor
  · rintro ⟨_, ⟨hx, rfl⟩, h⟩
    exact ⟨hx, h⟩
  · rintro ⟨hx, h⟩
    exact ⟨_, ⟨hx, rfl⟩, h⟩

theorem unreported_read_maybe {p : Descriptor} : Unreported (attempt (maybe p).read segments) ↔
    (∃ rest, readBool segments = .ok true rest ∧ Unreported (attempt p.read rest)) ∨
    ∃ rest after, readBool segments = .ok false rest ∧ p.skip rest = .ok () after ∧ p.Lacking := by
  rw [read, unreported_readBool_bind]
  simp only [if_true, Bool.false_eq_true, if_false]
  refine or_congr (exists_congr fun rest => and_congr_right fun _ => ?_) (exists_congr fun rest => ?_)
  · rw [unreported_attempt_bind]
    simp [not_unreported_ok]
  · simp only [unreported_skip_bind, unreported_placeholder_bind, attempt_pure, not_unreported_ok,
      and_false, exists_false, or_false, exists_and_left]

theorem unreported_read_either {l r : Descriptor} :
    Unreported (attempt (either l r).read segments) ↔
      (∃ rest, readBool segments = .ok true rest ∧ (Unreported (attempt l.read rest) ∨
        ∃ x between after, l.read rest = .ok x between ∧ r.skip between = .ok () after ∧ r.Lacking)) ∨
      ∃ rest between, readBool segments = .ok false rest ∧ l.skip rest = .ok () between ∧
        (l.Lacking ∨ ¬ l.Lacking ∧ Unreported (attempt r.read between)) := by
  rw [read, unreported_readBool_bind]
  simp only [if_true, Bool.false_eq_true, if_false]
  refine or_congr (exists_congr fun rest => and_congr_right fun _ => ?_) (exists_congr fun rest => ?_)
  · rw [unreported_attempt_bind]
    simp only [unreported_skip_bind, unreported_placeholder_bind, attempt_pure, not_unreported_ok,
      and_false, exists_false, or_false, exists_and_left]
  · have hplaceholder : ∀ between, (∃ x, l.placeholder = .ok x ∧ Unreported (attempt r.read between)) ↔
        ¬ l.Lacking ∧ Unreported (attempt r.read between) := by
      intro between
      rw [exists_and_right, exists_placeholder]
    have hright : ∀ between (x : Datum), Unreported (attempt (do
        let y ← r.read
        pure (Datum.either (.bool false) x y)) between) ↔ Unreported (attempt r.read between) := by
      intro between x
      rw [unreported_attempt_bind]
      simp [not_unreported_ok]
    simp only [unreported_skip_bind, unreported_placeholder_bind, hright, hplaceholder, exists_and_left]

theorem unreported_read : Unreported (attempt d.read segments) ↔ d.StumblesIn segments := by
  induction d generalizing segments with
  | uint max width =>
    have hread : Unreported (attempt (uint max width).read segments) ↔
        Unreported (attempt (readRange (uintName max) max width) segments) := by
      rw [read, unreported_attempt_bind]
      simp [not_unreported_ok]
    rw [hread, unreported_readRange (by simp)]
    constructor
    · rintro (h | ⟨n, rest, hn, hmax, hw⟩)
      · exact .slot h
      · exact .excess hn hmax hw
    · intro h
      cases h with
      | slot h => exact .inl h
      | excess hn hmax hw => exact .inr ⟨_, _, hn, hmax, hw⟩
  | enum max width cls =>
    have hname : (enumName max cls).isWritable = false → Text.isWritable max = false := by
      cases cls <;> simp
    rw [read, unreported_readEnum, unreported_readRange hname]
    constructor
    · rintro ((h | ⟨n, rest, hn, hmax, hw⟩) | ⟨n, rest, c, hn, hmax, rfl, hc, hw⟩)
      · exact .ordinalSlot h
      · exact .ordinalExcess hn hmax hw
      · exact .gap hn hmax hc hw
    · intro h
      cases h with
      | ordinalSlot h => exact .inl (.inl h)
      | ordinalExcess hn hmax hw => exact .inl (.inr ⟨_, _, hn, hmax, hw⟩)
      | gap hn hmax hc hw => exact .inr ⟨_, _, _, hn, hmax, rfl, hc, hw⟩
  | bytes n =>
    rw [unreported_read_bytes]
    constructor
    · rintro (h | ⟨b, rest, hb, hn⟩)
      · exact .bytesSlot h
      · exact .room hb hn
    · intro h
      cases h with
      | bytesSlot h => exact .inl h
      | room hb hn => exact .inr ⟨_, _, hb, hn⟩
  | bool =>
    have hread : ¬ Unreported (attempt bool.read segments) := by
      rw [read, unreported_attempt_bind]
      simp [not_unreported_readBool, not_unreported_ok]
    refine iff_of_false hread ?_
    rintro ⟨⟩
  | text =>
    refine iff_of_false not_unreported_readText ?_
    rintro ⟨⟩
  | field =>
    have hlength : (Datum.int Atom.field.length).isWritable = true := Datum.isWritable_natCast (by decide)
    have hread : ¬ Unreported (attempt field.read segments) := by
      rw [read, unreported_attempt_bind, unreported_takeNat, Atom.StumblesIn, hlength]
      simp [not_unreported_ok]
    refine iff_of_false hread ?_
    rintro ⟨⟩
  | vector n e ih =>
    simp only [unreported_read_vector, ih]
    constructor
    · rintro ⟨k, ws, rest, hk, hws, h⟩
      exact .item hk hws h
    · intro h
      cases h with
      | item hk hws h => exact ⟨_, _, _, hk, hws, h⟩
  | maybe p ih =>
    simp only [unreported_read_maybe, ih]
    constructor
    · rintro (⟨rest, hb, h⟩ | ⟨rest, after, hb, hs, h⟩)
      · exact .present hb h
      · exact .absent hb hs h
    · intro h
      cases h with
      | present hb h => exact .inl ⟨_, hb, h⟩
      | absent hb hs h => exact .inr ⟨_, _, hb, hs, h⟩
  | either l r ihl ihr =>
    simp only [unreported_read_either, ihl, ihr]
    constructor
    · rintro (⟨rest, hb, h | ⟨x, between, after, hx, hs, h⟩⟩ | ⟨rest, between, hb, hs, h | ⟨hl, h⟩⟩)
      · exact .left hb h
      · exact .unselectedRight hb hx hs h
      · exact .unselectedLeft hb hs h
      · exact .right hb hs hl h
    · intro h
      cases h with
      | left hb h => exact .inl ⟨_, hb, .inl h⟩
      | unselectedRight hb hx hs h => exact .inl ⟨_, hb, .inr ⟨_, _, _, hx, hs, h⟩⟩
      | unselectedLeft hb hs h => exact .inr ⟨_, _, hb, hs, .inl h⟩
      | right hb hs hl h => exact .inr ⟨_, _, hb, hs, .inr ⟨hl, h⟩⟩
  | struct name fs ih =>
    rw [unreported_read_struct]
    constructor
    · rintro ⟨before, f, after, es, rest, rfl, hes, h⟩
      exact .entry rfl hes ((ih f (by simp)).mp h)
    · intro h
      cases h with
      | @entry _ _ before after f es _ rest hf hes h =>
        subst hf
        exact ⟨before, f, after, es, rest, rfl, hes, (ih f (by simp)).mpr h⟩

theorem reportsOnly_readFields {fs : List (String × Descriptor)}
    (h : ∀ f ∈ fs, ∀ segments, ReportsOnly .decode (attempt f.2.read segments)) :
    ReportsOnly .decode (attempt (readFields fs) segments) := by
  induction fs generalizing segments with
  | nil => exact .ok _
  | cons f fs ih =>
    obtain ⟨hf, hfs⟩ := List.forall_mem_cons.mp h
    exact .attempt_bind (hf segments) fun w t => .attempt_bind (ih hfs) fun ws t => .ok _

theorem reportsOnly_placeholder : ReportsOnly .decode
    (attempt (MonadExcept.ofExcept d.placeholder : SegmentReader Datum) segments) := by
  rw [attempt_ofExcept]
  exact .map (.of_not_isReported fun _ => not_isReported_of_placeholder)

theorem reportsOnly_read : ReportsOnly .decode (attempt d.read segments) := by
  induction d generalizing segments with
  | uint max width => exact .attempt_bind reportsOnly_readRange fun _ _ => .ok _
  | enum max width cls =>
    refine .attempt_bind reportsOnly_readRange fun n rest => ?_
    split
    · exact .ok _
    · split
      · exact .ok _
      · exact .error rfl
  | bytes n =>
    refine .attempt_bind reportsOnly_take fun s rest => .attempt_bind ?_ fun _ _ => .ok _
    rw [attempt_ofExcept]
    exact .map (.of_not_isReported fun _ => Memory.not_isReported_of_request)
  | bool => exact .attempt_bind reportsOnly_readBool fun _ _ => .ok _
  | text =>
    refine .attempt_bind reportsOnly_take fun s rest => ?_
    split
    · exact .ok _
    · exact .error rfl
  | field => exact .attempt_bind (.attempt_bind reportsOnly_take fun _ _ => .ok _) fun _ _ => .ok _
  | vector n e ih => exact .attempt_bind (reportsOnly_times fun _ => ih) fun _ _ => .ok _
  | maybe p ih =>
    refine .attempt_bind reportsOnly_readBool fun b rest => ?_
    cases b with
    | true => exact .attempt_bind ih fun _ _ => .ok _
    | false =>
      exact .attempt_bind reportsOnly_skip fun _ _ => .attempt_bind reportsOnly_placeholder fun _ _ => .ok _
  | either l r ihl ihr =>
    refine .attempt_bind reportsOnly_readBool fun b rest => ?_
    cases b with
    | true =>
      exact .attempt_bind ihl fun _ _ => .attempt_bind reportsOnly_skip fun _ _ =>
        .attempt_bind reportsOnly_placeholder fun _ _ => .ok _
    | false =>
      exact .attempt_bind reportsOnly_skip fun _ _ => .attempt_bind reportsOnly_placeholder fun _ _ =>
        .attempt_bind ihr fun _ _ => .ok _
  | struct name fs ih => exact .attempt_bind (reportsOnly_readFields fun f hf _ => ih f hf) fun _ _ => .ok _

theorem decodeData_eq : d.decodeData segments = attempt d.read segments >>= fun p =>
    if p.2 = [] then .ok p.1 else .error (.trailingSegments p.2.length d.name) := by
  cases h : d.read segments with
  | ok v rest => cases rest <;> simp [decodeData, attempt, h]
  | error e rest => simp [decodeData, attempt, h]

theorem unreported_decodeData : Unreported (d.decodeData segments) ↔ d.StumblesIn segments ∨
    d.name.isWritable = false ∧ ∃ v rest, d.read segments = .ok v rest ∧ rest ≠ [] := by
  have htrailing : ∀ p : Datum × List Datum, Unreported (if p.2 = [] then Except.ok p.1
      else .error (.trailingSegments p.2.length d.name)) ↔ d.name.isWritable = false ∧ p.2 ≠ [] := by
    intro p
    split
    · next hp => simp [not_unreported_ok, hp]
    · next hp =>
      rw [Label.unreported_error rfl rfl]
      simp [hp]
  rw [decodeData_eq, unreported_bind, unreported_read]
  simp only [htrailing, Prod.exists, attempt_eq_ok]
  refine or_congr_right ?_
  constructor
  · rintro ⟨v, rest, hread, hname, hrest⟩
    exact ⟨hname, v, rest, hread, hrest⟩
  · rintro ⟨hname, v, rest, hread, hrest⟩
    exact ⟨v, rest, hread, hname, hrest⟩

theorem reportsOnly_decodeData : ReportsOnly .decode (d.decodeData segments) := by
  rw [decodeData_eq]
  refine .bind reportsOnly_read fun p => ?_
  split
  · exact .ok _
  · exact .error rfl

theorem decode_told {segments : List Bytes} :
    (∃ e, d.decode segments = .error e ∧ e.told.kind ≠ .decode) ↔ d.StumblesIn (segments.map .bytes) ∨
      d.name.isWritable = false ∧ ∃ v rest, d.read (segments.map .bytes) = .ok v rest ∧ rest ≠ [] :=
  (reportsOnly_decodeData.exists_told_ne rfl).trans unreported_decodeData

/-- Descriptors fail with their own errors, except exactly where they stumble, and where the report names the
descriptor and its name is too long for that. -/
theorem own_errors_unless_stumbling (d : Descriptor) (v given : Datum) (name : String)
    (segments : List Bytes) :
    ((∃ e, d.encode v = .error e ∧ e.told.kind ≠ .descriptor) ↔ d.StumblesOver v) ∧
      ((∃ e, Witnesses.checkReturn name given d = .error e ∧ e.told.kind ≠ .shape) ↔
        ∃ privateState v, given = .tuple [privateState, v] ∧
          (d.StumblesOver v ∨ d.name.isWritable = false ∧ ∃ e, d.encode v = .error e)) ∧
      ((∃ e, d.decode segments = .error e ∧ e.told.kind ≠ .decode) ↔
        d.StumblesIn (segments.map .bytes) ∨
          d.name.isWritable = false ∧ ∃ v rest, d.read (segments.map .bytes) = .ok v rest ∧ rest ≠ []) :=
  ⟨encode_told, Witnesses.checkReturn_told, decode_told⟩

end

/-- Two keys of different kinds have no order to be listed in. -/
theorem mixed_keys_not_told :
    ¬ ∀ (d : Descriptor) (v : Datum) (e : Fault), d.WellFormed → d.encode v = .error e →
      e.told.kind = .descriptor := by
  intro h
  have hd : (struct "S" [("a", uint 255 1)]).WellFormed := by
    simp [WellFormed, FieldsWellFormed, LittleEndian.fits_iff]
  have he : (struct "S" [("a", uint 255 1)]).encode (.dict [(.int 1, .int 2), (.text "a", .int 3)]) =
      .error .wrongType := rfl
  have hkind := h _ _ _ hd he
  cases hkind

end Descriptor

end AlignedLedger
