import AlignedLedger.Descriptor.Decode
import AlignedLedger.Proofs.Agreement
import AlignedLedger.Proofs.Descriptor.Shape

/-! What stands in slots that are passed over has no influence. Which slots these are is settled by the
flags in front of them, so it is found in the same order in which the segments are read. -/

namespace AlignedLedger

/-- As long as each other, and the same at every place that is not marked. -/
structure AgreeOutside {α : Type} (marks : List Bool) (s t : List α) : Prop where
  length_eq : s.length = t.length
  getElem?_eq : ∀ i : Nat, marks[i]? = some false → s[i]? = t[i]?

namespace AgreeOutside

variable {α : Type} {marks ms ns : List Bool} {s t : List α}

theorem front (h : AgreeOutside (ms ++ ns) s t) : AgreeOutside ms s t := by
  refine ⟨h.length_eq, fun i hi => h.getElem?_eq i ?_⟩
  have hlt : i < ms.length := (List.getElem?_eq_some_iff.mp hi).1
  rw [List.getElem?_append_left hlt, hi]

theorem back {n : Nat} (h : AgreeOutside (ms ++ ns) s t) (hn : ms.length = n) :
    AgreeOutside ns (s.drop n) (t.drop n) := by
  subst hn
  refine ⟨by rw [List.length_drop, List.length_drop, h.length_eq], fun i hi => ?_⟩
  have hmark : (ms ++ ns)[ms.length + i]? = some false := by
    rw [List.getElem?_append_right (Nat.le_add_right _ _), Nat.add_sub_cancel_left, hi]
  rw [List.getElem?_drop, List.getElem?_drop]
  exact h.getElem?_eq _ hmark

theorem tail {m : Bool} (h : AgreeOutside (m :: ns) s t) : AgreeOutside ns (s.drop 1) (t.drop 1) :=
  h.back (show [m].length = 1 from rfl)

theorem head?_eq (h : AgreeOutside (false :: ns) s t) : s.head? = t.head? := by
  have h0 := h.getElem?_eq 0 rfl
  rwa [← List.head?_eq_getElem?, ← List.head?_eq_getElem?] at h0

theorem map {β : Type} (f : α → β) (h : AgreeOutside marks s t) :
    AgreeOutside marks (s.map f) (t.map f) := by
  refine ⟨by rw [List.length_map, List.length_map, h.length_eq], fun i hi => ?_⟩
  rw [List.getElem?_map, List.getElem?_map, h.getElem?_eq i hi]

theorem iff_forall_lt :
    AgreeOutside marks s t ↔
      s.length = t.length ∧ ∀ i < marks.length, marks[i]? = some false → s[i]? = t[i]? := by
  constructor
  · intro h
    exact ⟨h.length_eq, fun i _ hi => h.getElem?_eq i hi⟩
  · rintro ⟨hlength, h⟩
    exact ⟨hlength, fun i hi => h i (List.getElem?_eq_some_iff.mp hi).1 hi⟩

instance [DecidableEq α] : Decidable (AgreeOutside marks s t) := decidable_of_iff' _ iff_forall_lt

end AgreeOutside

namespace Descriptor

open SegmentReader

/-- The flag in front of the segments, if one can be read there. -/
def flag? (segments : List Datum) : Option Bool := readBool.run' segments

/-- The marks of `n` runs of slots, each `width` wide. -/
def marksOfEach (n width : Nat) (marks : List Datum → List Bool) (segments : List Datum) : List Bool :=
  match n with
  | 0 => []
  | n + 1 => marks segments ++ marksOfEach n width marks (segments.drop width)

mutual

/-- The slots that are passed over when these segments are read, marked in the order of the slots. -/
def skipped : Descriptor → List Datum → List Bool
  | vector n e, s => marksOfEach n e.alignment.length e.skipped s
  | maybe p, s =>
    false ::
      if flag? s = some false then List.replicate p.alignment.length true else p.skipped (s.drop 1)
  | either l r, s =>
    false ::
      ((if flag? s = some false then List.replicate l.alignment.length true else l.skipped (s.drop 1)) ++
        if flag? s = some true then List.replicate r.alignment.length true
        else r.skipped ((s.drop 1).drop l.alignment.length))
  | struct _ fs, s => fieldsSkipped fs s
  | _, _ => [false]

def fieldsSkipped : List (String × Descriptor) → List Datum → List Bool
  | [], _ => []
  | (_, d) :: fs, s => d.skipped s ++ fieldsSkipped fs (s.drop d.alignment.length)

end

theorem length_marksOfEach {width : Nat} {marks : List Datum → List Bool}
    (h : ∀ s, (marks s).length = width) (n : Nat) (s : List Datum) :
    (marksOfEach n width marks s).length = n * width := by
  induction n generalizing s with
  | zero => simp [marksOfEach]
  | succ n ih => rw [marksOfEach, List.length_append, h, ih, Nat.succ_mul, Nat.add_comm]

theorem length_fieldsSkipped {fs : List (String × Descriptor)}
    (h : ∀ f ∈ fs, ∀ s, (f.2.skipped s).length = f.2.alignment.length) (s : List Datum) :
    (fieldsSkipped fs s).length = (fieldAlignment fs).length := by
  induction fs generalizing s with
  | nil => rfl
  | cons f fs ih =>
    have hf := h f List.mem_cons_self s
    have hfs := ih (fun g hg => h g (List.mem_cons_of_mem _ hg)) (s.drop f.2.alignment.length)
    rw [fieldsSkipped, fieldAlignment, List.length_append, List.length_append, hf, hfs]

/-- There is a mark for each slot. -/
theorem length_skipped (d : Descriptor) (s : List Datum) : (d.skipped s).length = d.alignment.length := by
  induction d generalizing s with
  | uint max width => rfl
  | enum max width cls => rfl
  | bytes n => rfl
  | bool => rfl
  | text => rfl
  | field => rfl
  | vector n e ih => simp [skipped, alignment, length_marksOfEach ih]
  | maybe p ih =>
    simp only [skipped, alignment, List.length_cons]
    split
    · rw [List.length_replicate]
    · rw [ih]
  | either l r ihl ihr =>
    simp only [skipped, alignment, List.length_cons, List.length_append]
    split <;> split <;> simp [ihl, ihr]
  | struct name fs ih => exact length_fieldsSkipped ih s

end Descriptor

/-- Reading from either end with one result: the same fault, or the same value with `n` segments less. -/
def ReadAlike {α : Type} (n : Nat) (x : SegmentReader α) (s t : List Datum) : Prop :=
  RunsAgree (fun a left b left' => a = b ∧ left = s.drop n ∧ left' = t.drop n) (x s) (x t)

namespace ReadAlike

open SegmentReader

variable {α β : Type} {m n : Nat} {s t : List Datum}

theorem pure (a : α) : ReadAlike 0 (Pure.pure a) s t := ⟨rfl, rfl, rfl⟩

theorem throw (e : Fault) : ReadAlike n (throw e : SegmentReader α) s t := rfl

theorem ofExcept (x : Except Fault α) : ReadAlike 0 (MonadExcept.ofExcept x : SegmentReader α) s t := by
  cases x with
  | ok a => exact pure a
  | error e => exact rfl

/-- The second reading begins where the first has ended, with a value that was read there. -/
theorem bind {x : SegmentReader α} {f : α → SegmentReader β} (hx : ReadAlike m x s t)
    (hf : ∀ a, x.run' s = some a → ReadAlike n (f a) (s.drop m) (t.drop m)) :
    ReadAlike (m + n) (x >>= f) s t := by
  have hread := RunsAgree.and_left (P := fun a _ => x.run' s = some a) hx fun a _ => run'_of_ok
  refine RunsAgree.bind hread ?_
  rintro a left _ left' ⟨⟨rfl, rfl, rfl⟩, ha⟩
  refine (hf a ha).imp fun b rest b' rest' hb => ?_
  rwa [List.drop_drop, List.drop_drop] at hb

/-- What comes after it looks at no segment. -/
theorem finish {x : SegmentReader α} {f : α → SegmentReader β} (hx : ReadAlike n x s t)
    (hf : ∀ a s t, ReadAlike 0 (f a) s t) : ReadAlike n (x >>= f) s t :=
  hx.bind fun a _ => hf a _ _

theorem take (a : Atom) (h : s.head? = t.head?) : ReadAlike 1 (take a) s t := by
  cases s with
  | nil =>
    obtain rfl : t = [] := List.head?_eq_none_iff.mp h.symm
    exact rfl
  | cons x s =>
    obtain ⟨t, rfl⟩ := List.head?_eq_some_iff.mp h.symm
    cases hx : a.checkDatum x with
    | ok b => simp [ReadAlike, SegmentReader.take, hx, RunsAgree]
    | error e => simp [ReadAlike, SegmentReader.take, hx, RunsAgree]

theorem skip (h : s.length = t.length) : ReadAlike n (skip n) s t := by
  unfold ReadAlike SegmentReader.skip
  by_cases hn : n ≤ s.length
  · rw [if_pos hn, if_pos (h ▸ hn)]
    exact ⟨rfl, rfl, rfl⟩
  · rw [if_neg hn, if_neg (h ▸ hn), h]
    exact rfl

theorem takeNat (a : Atom) (h : s.head? = t.head?) : ReadAlike 1 (takeNat a) s t :=
  (take a h).finish fun _ _ _ => pure _

end ReadAlike

namespace Descriptor

open SegmentReader

variable {s t : List Datum}

theorem readRange_alike (name : Label) (max width : Nat) (h : s.head? = t.head?) :
    ReadAlike 1 (readRange name max width) s t := by
  refine (ReadAlike.takeNat _ h).finish fun n s t => ?_
  split
  · exact .throw _
  · exact .pure n

theorem readEnum_alike (name : Label) (max width : Nat) (cls : Option EnumClass)
    (h : s.head? = t.head?) : ReadAlike 1 (readEnum name max width cls) s t := by
  refine (readRange_alike name max width h).finish fun n s t => ?_
  cases cls with
  | none => exact .pure _
  | some c =>
    dsimp only
    split
    · exact .pure _
    · exact .throw _

theorem readBool_alike (h : s.head? = t.head?) : ReadAlike 1 readBool s t := by
  refine (ReadAlike.take _ h).finish fun b s t => ?_
  split
  · exact .pure _
  · split
    · exact .pure _
    · exact .throw _

theorem readText_alike (h : s.head? = t.head?) : ReadAlike 1 readText s t := by
  refine (ReadAlike.take _ h).finish fun b s t => ?_
  split
  · exact .pure _
  · exact .throw _

theorem times_alike [Memory] {e : Descriptor} (n : Nat)
    (he : ∀ s t, AgreeOutside (e.skipped s) s t → ReadAlike e.alignment.length e.read s t)
    (h : AgreeOutside (marksOfEach n e.alignment.length e.skipped s) s t) :
    ReadAlike (n * e.alignment.length) (times n e.read) s t := by
  induction n generalizing s t with
  | zero =>
    rw [Nat.zero_mul]
    exact .pure []
  | succ n ih =>
    have hrest := ih (h.back (e.length_skipped s))
    have hread := (he s t h.front).bind fun x _ => hrest.finish fun xs _ _ => ReadAlike.pure (x :: xs)
    rwa [Nat.succ_mul, Nat.add_comm]

theorem readFields_alike [Memory] {fs : List (String × Descriptor)}
    (hf : ∀ f ∈ fs, ∀ s t, AgreeOutside (f.2.skipped s) s t →
      ReadAlike f.2.alignment.length f.2.read s t)
    (h : AgreeOutside (fieldsSkipped fs s) s t) :
    ReadAlike (fieldAlignment fs).length (readFields fs) s t := by
  induction fs generalizing s t with
  | nil => exact .pure []
  | cons f fs ih =>
    have hrest := ih (fun g hg => hf g (List.mem_cons_of_mem _ hg)) (h.back (f.2.length_skipped s))
    rw [fieldAlignment, List.length_append]
    exact (hf f List.mem_cons_self s t h.front).bind fun x _ => hrest.finish fun es _ _ => .pure _

theorem skip_alike (d : Descriptor) (h : s.length = t.length) :
    ReadAlike d.alignment.length d.skip s t := .skip h

section

variable [Memory]

/-- The placeholder of what is passed over depends on no segment. -/
theorem skip_placeholder_alike {α : Type} {n : Nat} (d : Descriptor) {f : Datum → SegmentReader α}
    (h : s.length = t.length)
    (hf : ∀ x, ReadAlike n (f x) (s.drop d.alignment.length) (t.drop d.alignment.length)) :
    ReadAlike (d.alignment.length + n)
      (d.skip >>= fun _ => MonadExcept.ofExcept d.placeholder >>= f) s t := by
  refine (d.skip_alike h).bind fun _ _ => ?_
  have hx := (ReadAlike.ofExcept d.placeholder).bind fun x _ => hf x
  rwa [Nat.zero_add] at hx

theorem read_maybe_alike {p : Descriptor}
    (hp : ∀ s t, AgreeOutside (p.skipped s) s t → ReadAlike p.alignment.length p.read s t)
    (h : AgreeOutside ((maybe p).skipped s) s t) :
    ReadAlike (maybe p).alignment.length (maybe p).read s t := by
  rw [skipped] at h
  have hpayload := h.tail
  rw [read, alignment, List.length_cons, Nat.add_comm]
  refine (readBool_alike h.head?_eq).bind fun b hb => ?_
  have hflag : flag? s = some b := hb
  cases b with
  | true =>
    rw [hflag, if_neg (by simp)] at hpayload
    exact (hp _ _ hpayload).finish fun x _ _ => .pure _
  | false => exact skip_placeholder_alike p hpayload.length_eq fun x => .pure _

theorem read_either_alike {l r : Descriptor}
    (hl : ∀ s t, AgreeOutside (l.skipped s) s t → ReadAlike l.alignment.length l.read s t)
    (hr : ∀ s t, AgreeOutside (r.skipped s) s t → ReadAlike r.alignment.length r.read s t)
    (h : AgreeOutside ((either l r).skipped s) s t) :
    ReadAlike (either l r).alignment.length (either l r).read s t := by
  rw [skipped] at h
  have hsides := h.tail
  rw [read, alignment, List.length_cons, List.length_append, Nat.add_comm]
  refine (readBool_alike h.head?_eq).bind fun b hb => ?_
  have hflag : flag? s = some b := hb
  rw [hflag] at hsides
  cases b with
  | true =>
    have hleft := hsides.front
    rw [if_neg (by simp)] at hleft hsides
    have hright := hsides.back (l.length_skipped _)
    exact (hl _ _ hleft).bind fun x _ => skip_placeholder_alike r hright.length_eq fun y => .pure _
  | false =>
    have hright := hsides.back (by rw [if_pos rfl, List.length_replicate])
    rw [if_neg (by simp)] at hright
    exact skip_placeholder_alike l hsides.length_eq fun x => (hr _ _ hright).finish fun y _ _ => .pure _

/-- What is read is the same, and the reader comes to stand at the same place. -/
theorem read_alike (d : Descriptor) (h : AgreeOutside (d.skipped s) s t) :
    ReadAlike d.alignment.length d.read s t := by
  induction d generalizing s t with
  | uint max width => exact (readRange_alike _ max width h.head?_eq).finish fun n _ _ => .pure _
  | enum max width cls => exact readEnum_alike _ max width cls h.head?_eq
  | bytes n =>
    refine (ReadAlike.take _ h.head?_eq).finish fun b s t => ?_
    exact (ReadAlike.ofExcept _).finish fun _ _ _ => .pure _
  | bool => exact (readBool_alike h.head?_eq).finish fun b _ _ => .pure _
  | text => exact readText_alike h.head?_eq
  | field => exact (ReadAlike.takeNat _ h.head?_eq).finish fun n _ _ => .pure _
  | vector n e ih =>
    have hitems := times_alike n (fun _ _ => ih) h
    have hwidth : (vector n e).alignment.length = n * e.alignment.length := by simp [alignment]
    rw [hwidth]
    exact hitems.finish fun xs _ _ => .pure _
  | maybe p ih => exact read_maybe_alike (fun _ _ => ih) h
  | either l r ihl ihr => exact read_either_alike (fun _ _ => ihl) (fun _ _ => ihr) h
  | struct name fs ih =>
    exact (readFields_alike (fun f hf _ _ => ih f hf) h).finish fun es _ _ => .pure _

/-- What is left over matters by its number alone. -/
theorem decodeData_of_read {d : Descriptor} {v : Datum} {rest : List Datum} (h : d.read s = .ok v rest) :
    d.decodeData s =
      if rest.length = 0 then .ok v else .error (.trailingSegments rest.length d.name) := by
  rw [decodeData, h]
  cases rest with
  | nil => rfl
  | cons x rest => rfl

theorem decodeData_congr {d : Descriptor} (h : AgreeOutside (d.skipped s) s t) :
    d.decodeData s = d.decodeData t := by
  have halike := d.read_alike h
  unfold ReadAlike RunsAgree at halike
  cases hs : d.read s with
  | ok v rest =>
    cases ht : d.read t with
    | ok w rest' =>
      rw [hs, ht] at halike
      obtain ⟨rfl, rfl, rfl⟩ := halike
      have hleft : (s.drop d.alignment.length).length = (t.drop d.alignment.length).length := by
        rw [List.length_drop, List.length_drop, h.length_eq]
      rw [decodeData_of_read hs, decodeData_of_read ht, hleft]
    | error f rest' =>
      rw [hs, ht] at halike
      exact halike.elim
  | error e rest =>
    cases ht : d.read t with
    | ok w rest' =>
      rw [hs, ht] at halike
      exact halike.elim
    | error f rest' =>
      rw [hs, ht] at halike
      rw [decodeData, decodeData, hs, ht]
      exact congrArg Except.error halike

/-- Segments that differ in slots under an absent payload or in a side that is not selected are decoded
alike, to one value or with one fault. -/
theorem decode_eq_of_agreeOutside_skipped (d : Descriptor) :
    (∀ s t : List Bytes, AgreeOutside (d.skipped (s.map .bytes)) s t → d.decode s = d.decode t) ∧
      ∀ s t : List Datum, AgreeOutside (d.skipped s) s t → d.decodeData s = d.decodeData t := by
  refine ⟨fun s t h => ?_, fun s t h => decodeData_congr h⟩
  have hdata := h.map Datum.bytes
  exact decodeData_congr hdata

end

/-- An absent note, a left side with an absent payload beside it and a right side that is absent itself. -/
theorem decode_garbled_entry :
    let d : Descriptor := .struct "Entry" [("note", .maybe .text),
      ("sides", .vector 2 (.either (.uint 9 1) (.maybe .bool)))]
    let s : List Bytes := [[], [255], [1], [5], [2], [7, 7], [0], [200], [], [3]]
    let t : List Bytes := [[], [], [1], [5], [], [], [0], [], [], []]
    d.skipped (s.map .bytes) = [false, true, false, false, true, true, false, true, false, true] ∧
      AgreeOutside (d.skipped (s.map .bytes)) s t ∧ d.decode s = d.decode t ∧ ∃ v, d.decode s = .ok v := by
  intro d s t
  have hmarks : d.skipped (s.map .bytes) =
      [false, true, false, false, true, true, false, true, false, true] := by rfl
  have hagree : AgreeOutside (d.skipped (s.map .bytes)) s t := by
    rw [hmarks]
    decide
  exact ⟨hmarks, hagree, (decode_eq_of_agreeOutside_skipped d).1 s t hagree, _, rfl⟩

end Descriptor

end AlignedLedger
