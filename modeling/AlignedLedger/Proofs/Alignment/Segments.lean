import AlignedLedger.Alignment.Room
import AlignedLedger.Alignment.Segment
import AlignedLedger.Proofs.Alignment.Order
import AlignedLedger.Proofs.Success
import Mathlib.Data.List.Forall2

/-! Segments that their slots can hold are kept as they are, and others lose the zeros at their end. -/

namespace AlignedLedger

theorem Memory.kind_of_request [Memory] {n : Nat} {e : Fault} (h : request n = .error e) :
    e.kind = .overflow ∨ e.kind = .memory := by
  unfold request at h
  split at h
  · cases h
    exact .inl rfl
  · split at h
    · cases h
      exact .inr rfl
    · cases h

namespace Atom

variable {a : Atom} {s : Bytes}

theorem normalize_of_holds (h : a.Holds s) : a.normalize s = s := by
  unfold Holds at h
  unfold normalize
  split at h
  · exact Bytes.stripZeros_of_trimmed h.2
  · rfl

theorem holds_compress (s : Bytes) : compress.Holds s := trivial

theorem holds_nil (a : Atom) : a.Holds [] := by
  cases a with
  | bytes n => exact ⟨Nat.zero_le n, by decide⟩
  | field => decide
  | compress => exact holds_compress []

end Atom

/-- A slot with nothing in it. -/
def Slot.blank (a : Atom) : Slot := ⟨a, [], a.holds_nil⟩

theorem Slot.ofSegment_of_holds {a : Atom} {s : Bytes} (h : a.Holds s) :
    Slot.ofSegment a s = .ok ⟨a, s, h⟩ := by
  simp [Slot.ofSegment, Atom.normalize_of_holds h, h]

theorem Slot.ofSegment_eq_ok {a : Atom} {b : Bytes} {s : Slot} :
    Slot.ofSegment a b = .ok s ↔ a = s.atom ∧ s.segment = a.normalize b := by
  constructor
  · intro h
    unfold Slot.ofSegment at h
    dsimp only at h
    split at h
    · cases h
      exact ⟨rfl, rfl⟩
    · cases h
  · rintro ⟨rfl, hs⟩
    have hh : s.atom.Holds (s.atom.normalize b) := hs ▸ s.holds
    refine (dif_pos hh).trans (congrArg Except.ok ?_)
    exact Slot.ext_of_eq rfl hs.symm

theorem Slot.holds_of_ofSegment {a : Atom} {s : Bytes} {x : Slot} (h : Slot.ofSegment a s = .ok x) :
    a.Holds (a.normalize s) := by
  obtain ⟨rfl, hs⟩ := ofSegment_eq_ok.mp h
  exact hs ▸ x.holds

namespace Atom

variable {a : Atom} {s : Bytes}

theorem checkSegment_of_holds (h : a.Holds s) : a.checkSegment s = .ok s := by
  rw [checkSegment, Slot.ofSegment_of_holds h]
  rfl

theorem checkDatum_of_holds (h : a.Holds s) : a.checkDatum (.bytes s) = .ok s :=
  checkSegment_of_holds h

end Atom

namespace Alignment

/-- Each slot can hold the segment that stands in its place. -/
abbrev Holds (as : Alignment) (segments : List Bytes) : Prop :=
  List.Forall₂ Atom.Holds as segments

theorem Holds.append {as bs : Alignment} {ss ts : List Bytes} (hs : as.Holds ss) (ht : bs.Holds ts) :
    Alignment.Holds (as ++ bs) (ss ++ ts) :=
  List.rel_append hs ht

end Alignment

namespace AlignedValue

/-- Segments that fit their slots make up an aligned value. -/
theorem exists_of_holds {as : Alignment} {ss : List Bytes} (h : as.Holds ss) :
    ∃ v : AlignedValue, v.alignment = as ∧ v.segments = ss := by
  induction h with
  | nil => exact ⟨empty, rfl, rfl⟩
  | @cons a s as ss ha _ ih =>
    obtain ⟨v, rfl, rfl⟩ := ih
    exact ⟨⟨⟨a, s, ha⟩ :: v.slots⟩, rfl, rfl⟩

theorem holds (v : AlignedValue) : Alignment.Holds v.alignment v.segments := by
  simp only [Alignment.Holds, alignment, segments, List.forall₂_map_left_iff,
    List.forall₂_map_right_iff, List.forall₂_same]
  exact fun s _ => s.holds

/-- Laying the segments of an aligned value out again changes nothing. -/
theorem ofSegments_self (v : AlignedValue) : ofSegments v.segments v.alignment = .ok v := by
  have hmap : (v.slots.map fun s => (s.segment, s.atom)).mapM (fun p => Slot.ofSegment p.2 p.1) =
      .ok v.slots := mapM_map_ok fun s _ => Slot.ofSegment_of_holds s.holds
  rw [ofSegments, if_pos (by simp [segments, alignment]), segments, alignment, List.zip_map', hmap]
  rfl

theorem mapM_ofSegment_eq_ok {bs : List Bytes} {alignment : Alignment} {slots : List Slot}
    (hl : bs.length = alignment.length) :
    (bs.zip alignment).mapM (fun p => Slot.ofSegment p.2 p.1) = .ok slots ↔
      List.Forall₂ (fun b s => s.segment = s.atom.normalize b) bs slots ∧
        alignment = slots.map Slot.atom := by
  simp only [mapM_eq_ok, Slot.ofSegment_eq_ok]
  induction bs generalizing alignment slots with
  | nil =>
    obtain rfl : alignment = [] := List.length_eq_zero_iff.mp hl.symm
    cases slots <;> simp
  | cons b bs ih =>
    cases alignment with
    | nil => simp at hl
    | cons a alignment =>
      cases slots with
      | nil => simp
      | cons s slots =>
        have hl' : bs.length = alignment.length := Nat.succ.inj hl
        simp only [List.zip_cons_cons, List.forall₂_cons, ih hl', List.map_cons, List.cons.injEq]
        constructor
        · rintro ⟨⟨rfl, hs⟩, hss, rfl⟩
          exact ⟨⟨hs, hss⟩, rfl, rfl⟩
        · rintro ⟨⟨hs, hss⟩, rfl, rfl⟩
          exact ⟨⟨rfl, hs⟩, hss, rfl⟩

theorem ofSegments_eq_ok {v : AlignedValue} {bs : List Bytes} {alignment : Alignment} :
    ofSegments bs alignment = .ok v ↔
      List.Forall₂ (fun b s => s.segment = s.atom.normalize b) bs v.slots ∧
        alignment = v.slots.map Slot.atom := by
  unfold ofSegments
  by_cases hl : bs.length = alignment.length
  · rw [if_pos hl, map_eq_ok, ← mapM_ofSegment_eq_ok hl]
    constructor
    · rintro ⟨slots, hm, rfl⟩
      exact hm
    · exact fun hm => ⟨v.slots, hm, rfl⟩
  · rw [if_neg hl]
    constructor
    · rintro ⟨⟩
    · rintro ⟨hs, rfl⟩
      exact absurd (by simp [hs.length_eq]) hl

theorem ext_of_holds {v w : AlignedValue} (ha : v.alignment = w.alignment)
    (hs : v.segments = w.segments) : v = w := by
  have hv := ofSegments_self v
  rw [ha, hs, ofSegments_self] at hv
  exact (Except.ok.inj hv).symm

theorem binaryLength_le_of_mem {v : AlignedValue} {s : Slot} (h : s ∈ v.slots) :
    s.binaryLength ≤ v.binaryLength := by
  revert h
  unfold binaryLength
  induction v.slots with
  | nil => simp
  | cons t slots ih =>
    intro h
    rcases List.mem_cons.mp h with rfl | h
    · exact Nat.le_add_right _ _
    · exact (ih h).trans (Nat.le_add_left _ _)

/-- The binary form has room for the length of each atom. -/
theorem length_le_binaryLength {a : AlignedValue} {x : Atom} (h : x ∈ a.alignment) :
    x.length ≤ a.binaryLength := by
  obtain ⟨s, hs, rfl⟩ := List.mem_map.mp h
  refine Nat.le_trans ?_ (binaryLength_le_of_mem hs)
  unfold Slot.binaryLength
  cases s.atom with
  | bytes n => exact Nat.le_max_left _ _
  | field => exact Nat.zero_le _
  | compress => exact Nat.zero_le _

theorem binaryLength_singleton {s : Slot} {width : Nat} (h : s.atom.width? = some width) :
    binaryLength ⟨[s]⟩ = width := by
  have hs := s.holds
  rw [Atom.Holds, h] at hs
  simp only [binaryLength, List.foldr, Slot.binaryLength, h]
  omega

theorem exists_of_alignment_singleton {a : AlignedValue} {x : Atom} (h : a.alignment = [x]) :
    ∃ segment holds, a = ⟨[⟨x, segment, holds⟩]⟩ := by
  obtain ⟨slots⟩ := a
  obtain ⟨s, rfl, rfl⟩ := List.map_eq_singleton_iff.mp h
  exact ⟨s.segment, s.holds, rfl⟩

theorem exists_of_alignment_pair {a : AlignedValue} {x y : Atom} (h : a.alignment = [x, y]) :
    ∃ s hs t ht, a = ⟨[⟨x, s, hs⟩, ⟨y, t, ht⟩]⟩ := by
  obtain ⟨_ | ⟨s, _ | ⟨t, _ | ⟨u, rest⟩⟩⟩⟩ := a
  · simp [alignment] at h
  · simp [alignment] at h
  · simp only [alignment, List.map_cons, List.map_nil, List.cons.injEq, and_true] at h
    obtain ⟨rfl, rfl⟩ := h
    exact ⟨s.segment, s.holds, t.segment, t.holds, rfl⟩
  · simp [alignment] at h

/-- There is a number just where there is one slot, and the slot has a width. -/
theorem toNat?_eq_some_iff {v : AlignedValue} {n : Nat} :
    v.toNat? = some n ↔
      ∃ s width, v = ⟨[s]⟩ ∧ s.atom.width? = some width ∧ LittleEndian.toNat s.segment = n := by
  obtain ⟨slots⟩ := v
  match slots with
  | [s] =>
    simp only [toNat?, Option.map_eq_some_iff]
    constructor
    · rintro ⟨width, hwidth, hn⟩
      exact ⟨s, width, rfl, hwidth, hn⟩
    · rintro ⟨_, width, ⟨⟩, hwidth, hn⟩
      exact ⟨width, hwidth, hn⟩
  | [] => simp [toNat?]
  | _ :: _ :: _ => simp [toNat?]

theorem toNat_eq_ok {v : AlignedValue} {n : Nat} : v.toNat = .ok n ↔ v.toNat? = some n := by
  unfold toNat
  cases v.toNat? <;> simp

variable [Memory]

/-- Room for all of the binary form is room for each part of it. -/
theorem requestBinary_eq_ok {v : AlignedValue} :
    v.requestBinary = .ok () ↔ v.binaryLength ≤ Memory.available := by
  rw [requestBinary, bind_eq_ok, Memory.request_eq_ok_iff]
  constructor
  · rintro ⟨_, -, h⟩
    exact h
  · intro h
    refine ⟨⟨⟩, forM_eq_ok.mpr fun s hm => ?_, h⟩
    exact Memory.request_eq_ok_iff.mpr ((binaryLength_le_of_mem hm).trans h)

theorem kind_of_requestBinary {v : AlignedValue} {e : Fault}
    (h : v.requestBinary = .error e) :
    (e.kind = .overflow ∨ e.kind = .memory) ∧ Memory.available < v.binaryLength := by
  constructor
  · rcases bind_eq_error.mp h with h | ⟨_, -, h⟩
    · obtain ⟨s, -, hs⟩ := exists_of_forM_error h
      exact Memory.kind_of_request hs
    · exact Memory.kind_of_request h
  · by_contra hle
    rw [requestBinary_eq_ok.mpr (Nat.le_of_not_lt hle)] at h
    cases h

end AlignedValue

end AlignedLedger
