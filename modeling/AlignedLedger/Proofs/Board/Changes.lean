import AlignedLedger.Proofs.Board.Lookup

/-! Changes to the slots of a root of any form. A slot that is there can be written to whenever the new
value fits a cell, which changes what is read from it and nothing else in the root. -/

namespace AlignedLedger.Board

variable {cfg : Config} {slot other : Slot} {a : AlignedValue} {value : Datum} {t u root : Tree}
variable {s : CallState} {secret : Datum} {fields : Slot → Datum}

theorem key_apart (t : Tree) (h : slot ≠ other) : t.Apart slot.key other.key := by
  have hn : ∀ slot : Slot, slot.key.toNat? = some slot.index := by
    intro slot
    cases slot <;> rfl
  have hne : slot.key.toNat? ≠ other.key.toNat? := by
    rw [hn, hn]
    cases slot <;> cases other <;> simp [Slot.index] at h ⊢
  cases t with
  | array items => exact hne
  | _ => exact fun hk => hne (congrArg AlignedValue.toNat? hk)

variable [Memory]

/-- The tree has these values in its slots, and all else as the root has it. -/
structure Carries (cfg : Config) (root : Tree) (fields : Slot → Datum) (t : Tree) : Prop where
  built : t.Built cfg
  lookup : ∀ slot : Slot, slot.lookup t = .ok (fields slot)
  apart : ∀ k l, t.Apart k l ↔ root.Apart k l
  others : ∀ k, (∀ slot : Slot, root.Apart slot.key k) → t.index k = root.index k

theorem View.Matches.carries {v : View} (hv : v.Matches root) (hb : root.Built cfg) :
    Carries cfg root v.field root :=
  ⟨hb, hv, fun _ _ => Iff.rfl, fun _ _ => rfl⟩

section Sum

variable {n k : Nat} (ha : Slot.sequence.descriptor.fromAligned a = .ok (.int n))
include ha

theorem addNat_sequence_eq (k : Nat) :
    a.addNat k = AlignedValue.ofSegments [LittleEndian.ofNat (n + k)] [.bytes 8] := by
  have halign := Descriptor.alignment_of_fromAligned ha
  obtain ⟨segment, hs, rfl⟩ := AlignedValue.exists_of_alignment_singleton halign
  have hn := (fromAligned_sequence hs).2.symm.trans ha
  obtain rfl : LittleEndian.toNat segment = n := Int.ofNat.inj (Datum.int.inj (Except.ok.inj hn))
  rfl

theorem addNat_of_lt (hlt : n + k < 2 ^ 64) :
    ∃ b, a.addNat k = .ok b ∧ b.binaryLength = 8 ∧
      Slot.sequence.descriptor.fromAligned b = .ok (.int ↑(n + k)) := by
  have hh : (Atom.bytes 8).Holds (LittleEndian.ofNat (n + k)) :=
    ⟨LittleEndian.fits_iff.mpr hlt, LittleEndian.trimmed_ofNat (n + k)⟩
  refine ⟨⟨[⟨.bytes 8, LittleEndian.ofNat (n + k), hh⟩]⟩, ?_, Nat.max_eq_left hh.1, ?_⟩
  · rw [addNat_sequence_eq ha]
    exact AlignedValue.ofSegments_self ⟨[⟨.bytes 8, LittleEndian.ofNat (n + k), hh⟩]⟩
  · rw [(fromAligned_sequence hh).2, LittleEndian.toNat_ofNat]

theorem addNat_of_le (hle : 2 ^ 64 ≤ n + k) :
    ∃ l, a.addNat k = .error (.segmentTooWide l (.bytes 8)) := by
  have hn : (Atom.bytes 8).normalize (LittleEndian.ofNat (n + k)) = LittleEndian.ofNat (n + k) :=
    Bytes.stripZeros_of_trimmed (LittleEndian.trimmed_ofNat (n + k))
  have hh : ¬ (Atom.bytes 8).Holds (LittleEndian.ofNat (n + k)) := by
    intro hh
    have hlt := LittleEndian.fits_iff.mp hh.1
    omega
  have hlen : [LittleEndian.ofNat (n + k)].length = [Atom.bytes 8].length := rfl
  refine ⟨(LittleEndian.ofNat (n + k)).length, ?_⟩
  rw [addNat_sequence_eq ha, AlignedValue.ofSegments, if_pos hlen, List.zip_cons_cons, List.mapM_cons]
  simp only [AlignedLedger.Slot.ofSegment, hn, dif_neg hh]
  rfl

end Sum

namespace Carries

theorem insert (h : Carries cfg root fields t) (hl : a.binaryLength ≤ cfg.maxCellBytes)
    (ha : slot.descriptor.fromAligned a = .ok value)
    (hu : t.insert cfg slot.key (.cell a) = .ok u) :
    Carries cfg root (Function.update fields slot value) u where
  built := h.built.insert (Tree.built_cell_iff.mpr hl) hu
  lookup other := by
    by_cases ho : other = slot
    · subst ho
      rw [Function.update_self]
      exact Slot.lookup_eq_ok.mpr ⟨a, Tree.index_insert_self hu, ha⟩
    · rw [Function.update_of_ne ho, Slot.lookup,
        Tree.index_insert_of_apart hu (key_apart t (Ne.symm ho))]
      exact h.lookup other
  apart k l := (Tree.apart_insert_iff hu).trans (h.apart k l)
  others k hk := by
    rw [Tree.index_insert_of_apart hu ((h.apart slot.key k).mpr (hk slot))]
    exact h.others k hk

theorem exists_insert (h : Carries cfg root fields t) (slot : Slot) (a : AlignedValue) :
    ∃ u, t.insert cfg slot.key (.cell a) = .ok u := by
  obtain ⟨b, hi, -⟩ := Slot.lookup_eq_ok.mp (h.lookup slot)
  have hk : slot.key.requestBinary = .ok () := by
    refine AlignedValue.requestBinary_eq_ok.mpr (Nat.le_trans ?_ Memory.roomy)
    cases slot <;> decide
  exact h.built.exists_insert hk hi (.cell a)

theorem write_ends (hc : cfg.HoldsSlots) (h : Carries cfg root fields t) (hs : Call.At t secret s)
    (ha : slot.descriptor.aligned value = .ok a) (hf : slot.descriptor.fromAligned a = .ok value) :
    Ends (slot.write cfg value s)
      (fun _ s' => ∃ u, a.binaryLength ≤ cfg.maxCellBytes ∧
        Carries cfg root (Function.update fields slot value) u ∧ Call.At u secret s')
      (fun e => cfg.maxCellBytes < a.binaryLength ∧ e = Tree.cellRefusal cfg.maxCellBytes a) := by
  have hkey : Tree.makeCell cfg slot.key = .ok (.cell slot.key) :=
    Tree.makeCell_eq_ok.mpr ⟨binaryLength_key_le hc slot, rfl⟩
  by_cases hl : a.binaryLength ≤ cfg.maxCellBytes
  · have hprogram : slot.writeProgram cfg value = .ok
        (.ofInstrs [.push false (.cell slot.key), .push true (.cell a), .ins false 1]) := by
      refine bind_eq_ok.mpr ⟨_, hkey, bind_eq_ok.mpr ⟨a, ha, bind_eq_ok.mpr ⟨.cell a, ?_, rfl⟩⟩⟩
      exact Tree.makeCell_eq_ok.mpr ⟨hl, rfl⟩
    obtain ⟨u, hu⟩ := h.exists_insert slot a
    have hp := performAll_write hc slot.key (.cell a) t
    rw [hu] at hp
    have hq := hs.query_ends (x := .ok (u, [])) hp
    rw [Slot.write, bind_run_of_ok (ofExcept_run_of_ok hprogram)]
    refine hq.bind ?_ ?_
    · rintro v s' ⟨p, hx, -, hs'⟩
      cases hx
      exact ⟨u, hl, h.insert hl hf hu, hs'⟩
    · intro e he
      cases he
  · have hprogram : slot.writeProgram cfg value = .error (Tree.cellRefusal cfg.maxCellBytes a) := by
      have hcell : Tree.makeCell cfg a = .error (Tree.cellRefusal cfg.maxCellBytes a) := if_neg hl
      rw [Slot.writeProgram, hkey, ok_bind, ha, ok_bind, hcell, error_bind]
    rw [Slot.write, bind_run_of_error (ofExcept_run_of_error hprogram)]
    exact ⟨Nat.lt_of_not_le hl, rfl⟩

/-- Fields of a view always fit, but for a message. -/
theorem writeField_ends (hc : cfg.HoldsSlots) (h : Carries cfg root fields t) (hs : Call.At t secret s)
    (slot : Slot) {v : View} (hv : v.Sound) (hm : slot = .message → v.message = none) :
    Ends (slot.write cfg (v.field slot) s)
      (fun _ s' => ∃ u, Carries cfg root (Function.update fields slot (v.field slot)) u ∧
        Call.At u secret s')
      (fun _ => False) := by
  obtain ⟨a, ha, hl⟩ := exists_aligned_field slot hv hm
  have hfits := hl.trans hc.cell
  refine (h.write_ends hc hs ha (fromAligned_field ha)).imp ?_ ?_
  · rintro _ s' ⟨u, -, hu, hs'⟩
    exact ⟨u, hu, hs'⟩
  · rintro e ⟨hover, -⟩
    omega

theorem add_ends (hc : cfg.HoldsSlots) (h : Carries cfg root fields t) (hs : Call.At t secret s) {n : Nat}
    (hn : fields .sequence = .int n) (k : Nat) :
    Ends (Slot.sequence.add cfg k s)
      (fun _ s' => ∃ u, n + k < 2 ^ 64 ∧
        Carries cfg root (Function.update fields .sequence (.int ↑(n + k))) u ∧ Call.At u secret s')
      (fun e => 2 ^ 64 ≤ n + k ∧ e.IsReported ∧ e.kind = .structural) := by
  obtain ⟨a, hi, ha⟩ := Slot.lookup_eq_ok.mp (h.lookup .sequence)
  rw [hn] at ha
  have hp := performAll_add hc k (binaryLength_key_le hc .sequence) hi
  rcases Nat.lt_or_ge (n + k) (2 ^ 64) with hlt | hle
  · obtain ⟨b, hb, hl, hf⟩ := addNat_of_lt ha hlt
    have hfits : b.binaryLength ≤ cfg.maxCellBytes :=
      hl.trans_le (Nat.le_trans (by decide) hc.cell)
    obtain ⟨u, hu⟩ := h.exists_insert .sequence b
    have hcell : Tree.makeCell cfg b = .ok (.cell b) := Tree.makeCell_eq_ok.mpr ⟨hfits, rfl⟩
    simp only [hb, hcell, ok_bind, hu] at hp
    have hq := hs.query_ends (x := .ok (u, [])) hp
    refine hq.bind ?_ ?_
    · rintro v s' ⟨p, hx, -, hs'⟩
      cases hx
      exact ⟨u, hlt, h.insert hfits hf hu, hs'⟩
    · intro e he
      cases he
  · obtain ⟨l, hb⟩ := addNat_of_le ha hle
    simp only [hb] at hp
    have hq := hs.query_ends (x := .error (.addiRejected (.segmentTooWide l (.bytes 8)))) hp
    refine hq.bind ?_ ?_
    · rintro v s' ⟨p, hx, -⟩
      cases hx
    · intro e he
      cases he
      exact ⟨hle, Fault.isReported_of_spelled_nat (n := 8) rfl rfl (by decide), rfl⟩

end Carries

end AlignedLedger.Board
