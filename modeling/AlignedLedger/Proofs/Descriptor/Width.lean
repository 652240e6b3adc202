import AlignedLedger.Descriptor.Cursor
import AlignedLedger.Proofs.Descriptor.Shape
import AlignedLedger.Proofs.Success

/-! Reading takes up one segment for each slot, whichever way the flags on the way lead it, and passing over
takes up as many. -/

namespace AlignedLedger

/-- Each success takes `n` segments off the front. -/
def Takes {α : Type} (n : Nat) (x : SegmentReader α) : Prop :=
  ∀ s a rest, x s = .ok a rest → ∃ front, front.length = n ∧ s = front ++ rest

namespace Takes

open SegmentReader

variable {α β : Type} {m n : Nat} {x : SegmentReader α}

theorem pure (a : α) : Takes 0 (Pure.pure a) := by
  rintro s _ _ ⟨⟩
  exact ⟨[], rfl, rfl⟩

theorem throw (e : Fault) : Takes n (throw e : SegmentReader α) := by
  rintro s a rest ⟨⟩

theorem ofExcept (x : Except Fault α) : Takes 0 (MonadExcept.ofExcept x : SegmentReader α) := by
  cases x with
  | ok a => exact pure a
  | error e => exact throw e

theorem bind {f : α → SegmentReader β} (hx : Takes m x) (hf : ∀ a, Takes n (f a)) :
    Takes (m + n) (x >>= f) := by
  intro s b rest h
  obtain ⟨a, between, ha, hb⟩ := bind_run_eq_ok.mp h
  obtain ⟨front, rfl, rfl⟩ := hx s a between ha
  obtain ⟨back, rfl, rfl⟩ := hf a between b rest hb
  exact ⟨front ++ back, List.length_append, (List.append_assoc front back rest).symm⟩

/-- What comes after it takes nothing more. -/
theorem finish {f : α → SegmentReader β} (hx : Takes n x) (hf : ∀ a, Takes 0 (f a)) :
    Takes n (x >>= f) := hx.bind hf

theorem take (a : Atom) : Takes 1 (take a) := by
  intro s b rest h
  cases s with
  | nil => cases h
  | cons d s =>
    rw [SegmentReader.take] at h
    cases hd : a.checkDatum d with
    | ok c =>
      rw [hd] at h
      cases h
      exact ⟨[d], rfl, rfl⟩
    | error e =>
      rw [hd] at h
      cases h

theorem skip (n : Nat) : Takes n (skip n) := by
  intro s _ rest h
  rw [SegmentReader.skip] at h
  split at h
  · next hn =>
    cases h
    exact ⟨s.take n, List.length_take_of_le hn, (List.take_append_drop n s).symm⟩
  · cases h

theorem takeNat (a : Atom) : Takes 1 (takeNat a) := (take a).finish fun _ => pure _

theorem times {read : SegmentReader Datum} (h : Takes m read) (n : Nat) :
    Takes (n * m) (times n read) := by
  induction n with
  | zero =>
    rw [Nat.zero_mul]
    exact pure []
  | succ n ih =>
    rw [Nat.succ_mul, Nat.add_comm]
    exact h.bind fun d => ih.finish fun ds => pure (d :: ds)

end Takes

namespace Descriptor

open SegmentReader

variable {d : Descriptor} {v : Datum} {s rest : List Datum}

theorem takes_readRange (name : Label) (max width : Nat) : Takes 1 (readRange name max width) := by
  refine (Takes.takeNat _).finish fun n => ?_
  split
  · exact .throw _
  · exact .pure n

theorem takes_readEnum (name : Label) (max width : Nat) (cls : Option EnumClass) :
    Takes 1 (readEnum name max width cls) := by
  refine (takes_readRange name max width).finish fun n => ?_
  cases cls with
  | none => exact .pure _
  | some c =>
    dsimp only
    split
    · exact .pure _
    · exact .throw _

theorem takes_readBool : Takes 1 readBool := by
  refine (Takes.take _).finish fun b => ?_
  split
  · exact .pure _
  · split
    · exact .pure _
    · exact .throw _

theorem takes_readText : Takes 1 readText := by
  refine (Takes.take _).finish fun b => ?_
  split
  · exact .pure _
  · exact .throw _

theorem takes_skip (d : Descriptor) : Takes d.alignment.length d.skip := .skip _

theorem takes_readFields [Memory] {fs : List (String × Descriptor)}
    (h : ∀ f ∈ fs, Takes f.2.alignment.length f.2.read) :
    Takes (fieldAlignment fs).length (readFields fs) := by
  induction fs with
  | nil => exact .pure []
  | cons f fs ih =>
    have hrest := ih fun g hg => h g (List.mem_cons_of_mem _ hg)
    rw [fieldAlignment, List.length_append]
    exact (h f List.mem_cons_self).bind fun v => hrest.finish fun es => .pure _

/-- A payload or a side takes up its slots whether it is read or passed over. -/
theorem takes_read [Memory] (d : Descriptor) : Takes d.alignment.length d.read := by
  induction d with
  | uint max width => exact (takes_readRange _ max width).finish fun n => .pure _
  | enum max width cls => exact takes_readEnum _ max width cls
  | bytes n => exact (Takes.take _).finish fun b => (Takes.ofExcept _).finish fun _ => .pure _
  | bool => exact takes_readBool.finish fun b => .pure _
  | text => exact takes_readText
  | field => exact (Takes.takeNat _).finish fun n => .pure _
  | vector n e ih =>
    have hwidth : (vector n e).alignment.length = n * e.alignment.length := by simp [alignment]
    rw [hwidth]
    exact (ih.times n).finish fun xs => .pure _
  | maybe p ih =>
    rw [alignment, List.length_cons, Nat.add_comm]
    refine takes_readBool.bind fun b => ?_
    cases b with
    | true => exact ih.finish fun x => .pure _
    | false => exact p.takes_skip.finish fun _ => (Takes.ofExcept _).finish fun x => .pure _
  | either l r ihl ihr =>
    rw [alignment, List.length_cons, List.length_append, Nat.add_comm]
    refine takes_readBool.bind fun b => ?_
    cases b with
    | true =>
      exact ihl.bind fun x => r.takes_skip.finish fun _ => (Takes.ofExcept _).finish fun y => .pure _
    | false =>
      refine l.takes_skip.bind fun _ => ?_
      have hright := (Takes.ofExcept l.placeholder).bind fun x =>
        ihr.finish fun y => Takes.pure (Datum.either (.bool false) x y)
      rwa [Nat.zero_add] at hright
  | struct name fs ih => exact (takes_readFields ih).finish fun es => .pure _

theorem skip_eq_ok :
    d.skip s = .ok () rest ↔ ∃ front, front.length = d.alignment.length ∧ s = front ++ rest := by
  constructor
  · exact d.takes_skip s () rest
  · rintro ⟨front, hlength, rfl⟩
    rw [Descriptor.skip, SegmentReader.skip, if_pos (by simp [hlength]), List.drop_left' hlength]

theorem length_of_skip (h : d.skip s = .ok () rest) : s.length = d.alignment.length + rest.length := by
  obtain ⟨front, hlength, rfl⟩ := skip_eq_ok.mp h
  rw [List.length_append, hlength]

theorem exists_skip : (∃ rest, d.skip s = .ok () rest) ↔ d.alignment.length ≤ s.length := by
  constructor
  · rintro ⟨rest, h⟩
    have hlength := length_of_skip h
    omega
  · intro h
    exact ⟨_, skip_eq_ok.mpr ⟨_, List.length_take_of_le h, (List.take_append_drop _ s).symm⟩⟩

variable [Memory]

theorem rest_of_read (h : d.read s = .ok v rest) : rest = s.drop d.alignment.length := by
  obtain ⟨front, hlength, rfl⟩ := d.takes_read s v rest h
  exact (List.drop_left' hlength).symm

theorem length_of_decodeData (h : d.decodeData s = .ok v) : s.length = d.alignment.length := by
  unfold decodeData at h
  split at h
  · next hr =>
    obtain ⟨front, hlength, rfl⟩ := d.takes_read _ _ _ hr
    rw [List.append_nil, hlength]
  · cases h
  · cases h

end Descriptor

namespace Cursor

variable {α : Type} {c c' : Cursor} {x : SegmentReader α} {width : Nat}

/-- The cursors that callers can bring about, by steps that succeed and by steps that fail. -/
inductive Reached [Memory] : Cursor → Prop
  | start (segments : List Datum) : Reached (start segments)
  | take {c : Cursor} (a : Atom) (h : c.Reached) : Reached (c.take a).2
  | read {c : Cursor} (d : Descriptor) (h : c.Reached) : Reached (c.read d).2
  | skip {c : Cursor} (n : Int) (h : c.Reached) : Reached (c.skip n).2

theorem skip_eq_ok {n : Int} :
    c.skip n = (.ok (), c') ↔ n ≤ c.remaining ∧ c' = { c with position := c.position + n } := by
  unfold skip remaining
  split
  · next hn =>
    have hle : ¬ n ≤ c.segments.length - c.position := by omega
    simp [hle]
  · next hn =>
    have hle : n ≤ c.segments.length - c.position := by omega
    simp [hle, eq_comm]

theorem exists_skip {n : Int} : (∃ c', c.skip n = (.ok (), c')) ↔ n ≤ c.remaining := by
  simp [skip_eq_ok]

theorem remaining_of_skip {n : Int} (h : c.skip n = (.ok (), c')) : c'.remaining = c.remaining - n := by
  obtain ⟨-, rfl⟩ := skip_eq_ok.mp h
  simp only [remaining]
  omega

theorem remaining_run_nonneg (h : 0 ≤ c.remaining) : 0 ≤ (c.run width x).2.remaining := by
  have hmoved : ∀ rest : List Datum,
      0 ≤ remaining { c with position := c.segments.length - rest.length } := by
    intro rest
    simp only [remaining]
    omega
  unfold run
  dsimp only
  split
  · split <;> exact hmoved _
  · split <;> exact h

/-- No cursor comes to stand behind the end. -/
theorem Reached.remaining_nonneg [Memory] (h : c.Reached) : 0 ≤ c.remaining := by
  induction h with
  | start segments => simp [remaining, Cursor.start]
  | take a _ ih => exact remaining_run_nonneg ih
  | read d _ ih => exact remaining_run_nonneg ih
  | @skip c n _ ih =>
    unfold Cursor.skip
    split
    · exact ih
    · simp only [remaining]
      omega

/-- In front of the first segment some of the last are ahead, and after them all. -/
theorem length_of_ahead? {s : List Datum} (hc : 0 ≤ c.remaining) (h : c.ahead? = some s) :
    (s.length : Int) = c.remaining := by
  obtain ⟨segments, position⟩ := c
  unfold remaining at *
  cases position with
  | ofNat n =>
    cases h
    rw [List.length_drop]
    simp only [Int.ofNat_eq_natCast] at hc ⊢
    omega
  | negSucc n =>
    unfold ahead? at h
    dsimp only at h
    split at h
    · next hn =>
      cases h
      rw [List.length_append, List.length_drop]
      simp only [Int.negSucc_eq] at hc ⊢
      omega
    · cases h

/-- What takes up `width` segments comes to stand where passing over as many leads to. -/
theorem skip_of_run {a : α} (hx : Takes width x) (hc : 0 ≤ c.remaining)
    (h : c.run width x = (.ok a, c')) : c.skip width = (.ok (), c') := by
  rw [skip_eq_ok]
  cases hs : c.ahead? with
  | some s =>
    cases hr : x s with
    | ok b rest =>
      simp only [run, hs, hr, Prod.mk.injEq] at h
      obtain ⟨-, rfl⟩ := h
      obtain ⟨front, rfl, rfl⟩ := hx s b rest hr
      have hlength := length_of_ahead? hc hs
      rw [List.length_append] at hlength
      unfold remaining at *
      refine ⟨by omega, ?_⟩
      congr 1
      omega
    | error e rest =>
      simp only [run, hs, hr, Prod.mk.injEq] at h
      cases h.1
  | none =>
    -- With no place among the segments only what takes up none can succeed.
    cases width with
    | zero =>
      cases hr : x [] with
      | ok b rest =>
        simp only [run, hs, hr, Prod.mk.injEq] at h
        obtain ⟨-, rfl⟩ := h
        exact ⟨hc, by simp⟩
      | error e rest =>
        simp only [run, hs, hr, Prod.mk.injEq] at h
        cases h.1
    | succ width =>
      simp only [run, hs, Prod.mk.injEq] at h
      cases h.1

end Cursor

namespace Descriptor

/-- Where a reading ends does not depend on what is read: it takes up one segment for each slot, just as
passing over does, and passing over succeeds exactly if there are as many. So it is with cursors, also with
those that were moved back, and with the segments that are left within a reading; and segments are decoded
only if their number is that of the slots. -/
theorem read_and_skip_width [Memory] (d : Descriptor) :
    (∀ c : Cursor, c.Reached →
      (∀ v c', c.read d = (.ok v, c') →
        c'.remaining = c.remaining - d.alignment.length ∧ c.skip d.alignment.length = (.ok (), c')) ∧
      (∀ c', c.skip d.alignment.length = (.ok (), c') →
        c'.remaining = c.remaining - d.alignment.length) ∧
      ((∃ c', c.skip d.alignment.length = (.ok (), c')) ↔ d.alignment.length ≤ c.remaining)) ∧
    (∀ s : List Datum,
      (∀ v rest, d.read s = .ok v rest →
        s.length = d.alignment.length + rest.length ∧ d.skip s = .ok () rest) ∧
      (∀ rest, d.skip s = .ok () rest → s.length = d.alignment.length + rest.length) ∧
      ((∃ rest, d.skip s = .ok () rest) ↔ d.alignment.length ≤ s.length)) ∧
    (∀ (s : List Datum) (v : Datum), d.decodeData s = .ok v → s.length = d.alignment.length) ∧
    ∀ (s : List Bytes) (v : Datum), d.decode s = .ok v → s.length = d.alignment.length := by
  refine ⟨fun c hc => ⟨fun v c' h => ?_, fun c' => Cursor.remaining_of_skip, Cursor.exists_skip⟩,
    fun s => ⟨fun v rest h => ?_, fun rest => length_of_skip, exists_skip⟩,
    fun s v => length_of_decodeData, fun s v h => ?_⟩
  · have hskip := Cursor.skip_of_run d.takes_read hc.remaining_nonneg h
    exact ⟨Cursor.remaining_of_skip hskip, hskip⟩
  · have hskip : d.skip s = .ok () rest := skip_eq_ok.mpr (d.takes_read s v rest h)
    exact ⟨length_of_skip hskip, hskip⟩
  · have hlength := length_of_decodeData h
    rwa [List.length_map] at hlength

/-- A cursor that was moved back before the first segment takes the last one first. The payload and the right
side are passed over, and nothing is left. -/
theorem width_of_entry :
    let d : Descriptor := .struct "Entry" [("note", .maybe .text), ("side", .either (.uint 9 1) .bool)]
    let segments : List Datum := [.bytes [255], .bytes [1], .bytes [5], .bytes []]
    let c : Cursor := ⟨segments, -1⟩
    let c' : Cursor := ⟨segments, 4⟩
    let s : List Bytes := [[], [255], [1], [5], []]
    let v : Datum := .dict [(.text "note", .maybe (.bool false) (.text "")),
      (.text "side", .either (.bool true) (.int 5) (.bool false))]
    c.Reached ∧ c.read d = (.ok v, c') ∧ c'.remaining = c.remaining - 5 ∧ c.skip 5 = (.ok (), c') ∧
      d.read (s.map .bytes) = .ok v [] ∧ d.skip (s.map .bytes) = .ok () [] ∧ d.decode s = .ok v ∧
      s.length = d.alignment.length := by
  intro d segments c c' s v
  obtain ⟨hcursor, hrest, -, hdecode⟩ := d.read_and_skip_width
  have hc : c.Reached := by
    have hback : c = ((Cursor.start segments).skip (-1)).2 := rfl
    rw [hback]
    exact .skip (-1) (.start segments)
  have hread : c.read d = (.ok v, c') := rfl
  have hs : d.read (s.map .bytes) = .ok v [] := rfl
  have hv : d.decode s = .ok v := rfl
  obtain ⟨hremaining, hskip⟩ := (hcursor c hc).1 v c' hread
  obtain ⟨-, hpass⟩ := (hrest (s.map .bytes)).1 v [] hs
  exact ⟨hc, hread, hremaining, hskip, hs, hpass, hv, hdecode s v hv⟩

end Descriptor

end AlignedLedger
