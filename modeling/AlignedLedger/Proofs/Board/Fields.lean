import AlignedLedger.Proofs.Board.Slots
import AlignedLedger.Proofs.Descriptor.RoundTrip
import AlignedLedger.Proofs.Tree.Constructors
import Mathlib.Logic.Function.Basic

/-! The fields that a board's root shows: what is read from a slot is its field, and what is written
to one changes this field alone. -/

namespace AlignedLedger.Board

variable {cfg : Config} {slot : Slot} {v : View} {fields : Slot → Datum} {s s' : CallState} {t : Tree}
variable {α : Type}

theorem Occupancy.ofDatum?_toDatum (o : Occupancy) : ofDatum? o.toDatum = some o := by
  cases o <;> rfl

theorem message?_messageDatum (m : Option String) : message? (messageDatum m) = some m := by
  cases m <;> rfl

/-- What stands in a slot when the board shows this view. -/
def View.field (v : View) : Slot → Datum
  | .state => v.state.toDatum
  | .message => messageDatum v.message
  | .sequence => .int v.sequence
  | .owner => .bytes v.owner

/-- A root with one entry for each slot. -/
def rootOf (items : Slot → Tree) : Tree :=
  .array [items .state, items .message, items .sequence, items .owner]

theorem index_rootOf (items : Slot → Tree) (slot : Slot) :
    (rootOf items).index slot.key = .ok (items slot) := by
  cases slot <;> rfl

theorem isWritable_name (slot : Slot) : slot.descriptor.name.isWritable = true := by
  cases slot with
  | state => rfl
  | message => exact Label.isWritable_of_lt (by simp [Slot.descriptor, Descriptor.name])
  | sequence =>
    exact Label.isWritable_of_lt (by simp [Slot.descriptor, Descriptor.uint64, Descriptor.name,
      Descriptor.uintName])
  | owner => exact Label.isWritable_of_lt (by simp [Slot.descriptor, Descriptor.bytes32, Descriptor.name])

theorem insert_rootOf [Memory] (hc : cfg.HoldsBoard) (items : Slot → Tree) (slot : Slot) (u : Tree) :
    (rootOf items).insert cfg slot.key u = .ok (rootOf (Function.update items slot u)) := by
  cases slot <;> exact if_pos hc.array

theorem binaryLength_key_le (hc : cfg.HoldsSlots) (slot : Slot) :
    slot.key.binaryLength ≤ cfg.maxCellBytes := by
  refine Nat.le_trans ?_ hc.cell
  cases slot <;> decide

theorem wellFormed_descriptor (slot : Slot) : slot.descriptor.WellFormed := by
  cases slot with
  | state => exact ⟨by decide, LittleEndian.fits_iff.mpr (by decide)⟩
  | message => trivial
  | sequence => exact ⟨by decide, LittleEndian.fits_iff.mpr (by decide)⟩
  | owner => trivial

/-- The entries of the root are these values, each laid out by the descriptor of its slot. -/
def Displays [Memory] (fields : Slot → Datum) (t : Tree) : Prop :=
  ∃ cells : Slot → AlignedValue, t = rootOf (fun slot => .cell (cells slot)) ∧
    ∀ slot : Slot, slot.descriptor.aligned (fields slot) = .ok (cells slot)

/-- The entries of the root are the fields of the view. -/
abbrev Shows [Memory] (v : View) (t : Tree) : Prop := Displays v.field t

theorem read_messageDatum [Memory] {message : Option String} {segments : List Bytes}
    (h : (Descriptor.maybe .text).encode (messageDatum message) = .ok segments) :
    (Descriptor.maybe .text).read (segments.map .bytes) = .ok (messageDatum message) [] := by
  obtain ⟨a, x, payload, hm, hp, -, rfl⟩ := Descriptor.encode_maybe_eq_ok h
  obtain ⟨text, rfl, rfl⟩ := Descriptor.encode_text_eq_ok hp
  rw [List.map_cons, Descriptor.read, bind_run_of_ok (Descriptor.readBool_flag _ _)]
  cases message with
  | some m =>
    obtain ⟨rfl, ht⟩ := Datum.maybe.inj hm
    obtain rfl := Datum.text.inj ht
    exact (bind_run_of_ok (Descriptor.readText_encode m [])).trans rfl
  | none =>
    obtain ⟨rfl, -⟩ := Datum.maybe.inj hm
    rfl

theorem read_field [Memory] {segments : List Bytes} (h : slot.descriptor.encode (v.field slot) = .ok segments) :
    slot.descriptor.read (segments.map .bytes) = .ok (v.field slot) [] := by
  cases slot with
  | state =>
    obtain ⟨n, hn, hle, rfl⟩ := Descriptor.encodeInteger_eq_ok h
    refine Descriptor.read_enum (wellFormed_descriptor .state).2 hle ?_ []
    have hi : (n : Int) = v.state.ordinal := (Option.some.inj hn).symm
    rw [hi, View.field]
    cases v.state <;> rfl
  | message => exact read_messageDatum h
  | sequence =>
    obtain ⟨n, hn, hle, rfl⟩ := Descriptor.encodeInteger_eq_ok h
    have hi : (n : Int) = v.sequence := (Option.some.inj hn).symm
    rw [View.field, ← hi]
    exact Descriptor.read_uint (wellFormed_descriptor .sequence).2 hle []
  | owner =>
    obtain ⟨b, hb, hl, hm, rfl⟩ := Descriptor.encodeBytes_eq_ok h
    cases hb
    exact Descriptor.read_bytes hl hm []

theorem fromAligned_field [Memory] {a : AlignedValue} (h : slot.descriptor.aligned (v.field slot) = .ok a) :
    slot.descriptor.fromAligned a = .ok (v.field slot) := by
  obtain ⟨segments, he, ho⟩ := bind_eq_ok.mp h
  obtain ⟨b, hb, hs, ha⟩ := Descriptor.aligned_of_encode (wellFormed_descriptor slot) he
  cases hb.symm.trans h
  rw [Descriptor.fromAligned, if_pos ha, hs]
  simp only [Descriptor.decode, Descriptor.decodeData, read_field he]

section Aligned

/-- Whatever goes into a slot of a fixed width fills it. -/
theorem exists_aligned_of_encode [Memory] {value : Datum} {segments : List Bytes} {w : Nat}
    (hw : slot.descriptor.alignment = [.bytes w]) (h : slot.descriptor.encode value = .ok segments) :
    ∃ a, slot.descriptor.aligned value = .ok a ∧ a.binaryLength = w := by
  obtain ⟨a, ha, -, halign⟩ := Descriptor.aligned_of_encode (wellFormed_descriptor slot) h
  obtain ⟨segment, hs, rfl⟩ := AlignedValue.exists_of_alignment_singleton (halign.trans hw)
  exact ⟨_, ha, Nat.max_eq_left hs.1⟩

theorem exists_aligned_state [Memory] (o : Occupancy) :
    ∃ a, Slot.state.descriptor.aligned o.toDatum = .ok a ∧ a.binaryLength = 1 := by
  obtain ⟨segments, h⟩ : ∃ segments, Slot.state.descriptor.encode o.toDatum = .ok segments := by
    cases o <;> exact ⟨_, rfl⟩
  exact exists_aligned_of_encode rfl h

theorem exists_aligned_message [Memory] (m : Option String) :
    ∃ a, Slot.message.descriptor.aligned (messageDatum m) = .ok a ∧
      a.binaryLength = 1 + ((leb128 (Utf8.encode (m.getD "")).length).length +
        (Utf8.encode (m.getD "")).length) := by
  have henc : Slot.message.descriptor.encode (messageDatum m) =
      .ok [Descriptor.flag m.isSome, Utf8.encode (m.getD "")] := by
    cases m <;> rfl
  obtain ⟨a, ha, hs, halign⟩ := Descriptor.aligned_of_encode (wellFormed_descriptor .message) henc
  obtain ⟨flag, hf, payload, hp, rfl⟩ := AlignedValue.exists_of_alignment_pair halign
  obtain ⟨rfl, rfl⟩ : flag = Descriptor.flag m.isSome ∧ payload = Utf8.encode (m.getD "") := by
    simpa [AlignedValue.segments] using hs
  exact ⟨_, ha, congrArg (· + _) (Nat.max_eq_left hf.1)⟩

theorem exists_aligned_none [Memory] :
    ∃ a, Slot.message.descriptor.aligned (messageDatum none) = .ok a ∧ a.binaryLength = 2 := by
  obtain ⟨a, ha, hl⟩ := exists_aligned_message none
  have hempty : (leb128 (Utf8.encode ((none : Option String).getD "")).length).length = 1 := by
    decide +kernel
  exact ⟨a, ha, by rw [hl, hempty]; rfl⟩

theorem exists_aligned_sequence [Memory] {n : Nat} (hn : n < 2 ^ 64) :
    ∃ a, Slot.sequence.descriptor.aligned (.int n) = .ok a ∧ a.binaryLength = 8 := by
  have hle : n ≤ 1 <<< 64 - 1 := by
    simp only [Nat.one_shiftLeft]
    omega
  exact exists_aligned_of_encode rfl
    (Descriptor.encodeInteger_of_isWritable (isWritable_name .sequence) rfl hle)

/-- A key of 32 bytes fills its slot, whatever it is. -/
theorem exists_aligned_owner [Memory] {d : Datum} {key : Bytes} (hd : d.bytes? = some key)
    (hl : key.length = 32) :
    ∃ a, Slot.owner.descriptor.encode d = .ok [key.stripZeros] ∧
      Slot.owner.descriptor.aligned d = .ok a ∧ a.binaryLength = 32 := by
  have henc : Slot.owner.descriptor.encode d = .ok [key.stripZeros] := by
    change Descriptor.encodeBytes 32 d = _
    rw [Descriptor.encodeBytes, hd, Memory.request_of_le (by decide)]
    exact if_pos hl
  obtain ⟨a, ha, hlength⟩ := exists_aligned_of_encode rfl henc
  exact ⟨a, henc, ha, hlength⟩

/-- What a fresh board shows. -/
def fresh : View := ⟨.vacant, none, 0, Bytes.zeros 32⟩

/-- The number and the key have the sizes that there is room for in their slots. -/
structure View.Sound (v : View) : Prop where
  sequence : v.sequence < 2 ^ 64
  owner : v.owner.length = 32

theorem fresh_sound : fresh.Sound := ⟨by decide, by decide⟩

/-- The fields of a view can be put into the slots, and come to no more than 64 bytes but for a message. -/
theorem exists_aligned_field [Memory] (slot : Slot) {v : View} (hv : v.Sound)
    (hm : slot = .message → v.message = none) :
    ∃ a, slot.descriptor.aligned (v.field slot) = .ok a ∧ a.binaryLength ≤ 64 := by
  cases slot with
  | state =>
    obtain ⟨a, ha, hl⟩ := exists_aligned_state v.state
    exact ⟨a, ha, by omega⟩
  | message =>
    obtain ⟨a, ha, hl⟩ := exists_aligned_none
    rw [View.field, hm rfl]
    exact ⟨a, ha, by omega⟩
  | sequence =>
    obtain ⟨a, ha, hl⟩ := exists_aligned_sequence hv.sequence
    exact ⟨a, ha, by omega⟩
  | owner =>
    obtain ⟨a, -, ha, hl⟩ := exists_aligned_owner (d := .bytes v.owner) rfl hv.owner
    exact ⟨a, ha, by omega⟩

end Aligned

namespace Displays

variable [Memory]

theorem index (h : Displays fields t) (slot : Slot) :
    ∃ a, t.index slot.key = .ok (.cell a) ∧ slot.descriptor.aligned (fields slot) = .ok a := by
  obtain ⟨cells, rfl, ha⟩ := h
  exact ⟨cells slot, index_rootOf _ slot, ha slot⟩

/-- Another value in one slot, and the others stay. -/
theorem insert (hc : cfg.HoldsBoard) (h : Displays fields t) {value : Datum} {a : AlignedValue}
    (ha : slot.descriptor.aligned value = .ok a) {u : Tree}
    (hu : t.insert cfg slot.key (.cell a) = .ok u) : Displays (Function.update fields slot value) u := by
  obtain ⟨cells, rfl, hcells⟩ := h
  rw [insert_rootOf hc] at hu
  cases hu
  refine ⟨Function.update cells slot a, ?_, fun other => ?_⟩
  · congr 1
    funext other
    by_cases ho : other = slot
    · subst ho
      simp
    · simp [ho]
  · by_cases ho : other = slot
    · subst ho
      simpa using ha
    · simpa [ho] using hcells other

end Displays

theorem read_eq_ok [Memory] (hc : cfg.HoldsSlots) {cached : Bool} {d : Datum}
    (h : slot.read cfg cached s = .ok d s') :
    ∃ a, s.context.tree.index slot.key = .ok (.cell a) ∧ slot.descriptor.fromAligned a = .ok d ∧
      s'.context.tree = s.context.tree ∧ s'.context.privateState = s.context.privateState := by
  obtain ⟨_, r, hq, hd⟩ := bind_run_eq_ok.mp h
  obtain ⟨u, reads, hp, rfl, ht, hk⟩ := Call.query_performs hq
  rw [performAll_read hc] at hp
  obtain ⟨x, hx, hp⟩ := bind_eq_ok.mp hp
  obtain ⟨a, ha, hp⟩ := map_eq_ok.mp hp
  cases hp
  obtain rfl := Tree.asCell_eq_ok.mp ha
  obtain ⟨hvalue, rfl⟩ := ofExcept_run_eq_ok.mp hd
  exact ⟨a, hx, hvalue, ht, hk⟩

theorem writeProgram_eq_ok [Memory] {value : Datum} {p : Program} :
    slot.writeProgram cfg value = .ok p ↔
      ∃ a, slot.descriptor.aligned value = .ok a ∧ slot.key.binaryLength ≤ cfg.maxCellBytes ∧
        a.binaryLength ≤ cfg.maxCellBytes ∧
        p = .ofInstrs [.push false (.cell slot.key), .push true (.cell a), .ins false 1] := by
  simp only [Slot.writeProgram, bind_eq_ok, Tree.makeCell_eq_ok, pure_eq_ok, Except.ok.injEq]
  constructor
  · rintro ⟨_, ⟨hk, rfl⟩, a, ha, _, ⟨hl, rfl⟩, rfl⟩
    exact ⟨a, ha, hk, hl, rfl⟩
  · rintro ⟨a, ha, hk, hl, rfl⟩
    exact ⟨_, ⟨hk, rfl⟩, a, ha, _, ⟨hl, rfl⟩, rfl⟩

theorem write_eq_ok [Memory] (hc : cfg.HoldsSlots) {value : Datum} {x : Unit}
    (h : slot.write cfg value s = .ok x s') :
    ∃ a, slot.descriptor.aligned value = .ok a ∧
      s.context.tree.insert cfg slot.key (.cell a) = .ok s'.context.tree := by
  obtain ⟨p, hp, h⟩ := bind_ofExcept_run.mp h
  obtain ⟨a, ha, -, -, rfl⟩ := writeProgram_eq_ok.mp hp
  obtain ⟨_, r, hq, ⟨⟩⟩ := bind_run_eq_ok.mp h
  obtain ⟨u, reads, hp, -, ht, -⟩ := Call.query_performs hq
  rw [performAll_write hc] at hp
  obtain ⟨u, hu, hp⟩ := map_eq_ok.mp hp
  cases hp
  exact ⟨a, ha, ht ▸ hu⟩

theorem expect_eq_ok {x : Option α} {a : α} : expect x s = .ok a s' ↔ x = some a ∧ s' = s := by
  cases x <;> simp [expect, eq_comm]

/-- A number that a slot takes is one that it has room for. -/
theorem fits_of_ofSegments {width n : Nat} {a : AlignedValue}
    (h : AlignedValue.ofSegments [LittleEndian.ofNat n] [.bytes width] = .ok a) :
    LittleEndian.Fits width n := by
  obtain ⟨slots, hs, -⟩ := map_eq_ok.mp h
  rw [List.zip_cons_cons, List.mapM_cons] at hs
  obtain ⟨x, hx, -⟩ := bind_eq_ok.mp hs
  have hn : (Atom.bytes width).normalize (LittleEndian.ofNat n) = LittleEndian.ofNat n :=
    Bytes.stripZeros_of_trimmed (LittleEndian.trimmed_ofNat n)
  have hh := Slot.holds_of_ofSegment hx
  rw [hn] at hh
  exact hh.1

variable [Memory]

theorem addNat_sequence {n k : Nat} {a b : AlignedValue}
    (ha : Slot.sequence.descriptor.aligned (.int n) = .ok a) (hb : a.addNat k = .ok b) :
    Slot.sequence.descriptor.aligned (.int ↑(n + k)) = .ok b := by
  obtain ⟨segments, he, -⟩ := bind_eq_ok.mp ha
  obtain ⟨_, hn, hle, rfl⟩ := Descriptor.encodeInteger_eq_ok he
  obtain rfl := Int.ofNat.inj (Option.some.inj hn)
  obtain ⟨c, hc, hs, halign⟩ := Descriptor.aligned_of_encode (wellFormed_descriptor .sequence) he
  cases hc.symm.trans ha
  have hslot : a = ⟨[⟨.bytes 8, LittleEndian.ofNat n,
      Descriptor.holds_ofNat (wellFormed_descriptor .sequence).2 hle⟩]⟩ :=
    AlignedValue.ext_of_holds halign hs
  have hsum : AlignedValue.ofSegments [LittleEndian.ofNat (n + k)] [.bytes 8] = .ok b := by
    rw [hslot] at hb
    simpa [AlignedValue.addNat, AlignedValue.toNat, AlignedValue.toNat?, Atom.width?,
      AlignedValue.alignment] using hb
  have hfits := LittleEndian.fits_iff.mp (fits_of_ofSegments hsum)
  have henc : Slot.sequence.descriptor.encode (.int ↑(n + k)) = .ok [LittleEndian.ofNat (n + k)] :=
    Descriptor.encodeInteger_of_isWritable (Descriptor.isWritable_of_encodeInteger he) rfl (by omega)
  rw [Descriptor.aligned, henc]
  exact hsum

namespace Displays

theorem write (hc : cfg.HoldsBoard) (hv : Displays fields s.context.tree) {value : Datum} {x : Unit}
    (h : slot.write cfg value s = .ok x s') :
    Displays (Function.update fields slot value) s'.context.tree := by
  obtain ⟨a, ha, hu⟩ := write_eq_ok hc.slots h
  exact hv.insert hc ha hu

theorem add (hc : cfg.HoldsBoard) (hv : Displays fields s.context.tree) {n k : Nat}
    (hn : fields .sequence = .int n) {x : Unit} (h : Slot.sequence.add cfg k s = .ok x s') :
    Displays (Function.update fields .sequence (.int ↑(n + k))) s'.context.tree := by
  obtain ⟨_, r, hq, ⟨⟩⟩ := bind_run_eq_ok.mp h
  obtain ⟨u, reads, hp, -, ht, -⟩ := Call.query_performs hq
  obtain ⟨a, ha, haligned⟩ := hv.index .sequence
  obtain ⟨cells, hroot, -⟩ := id hv
  rw [hroot, rootOf] at hp ha
  rw [performAll_add hc.slots k (binaryLength_key_le hc.slots .sequence) ha] at hp
  split at hp
  · next b hb =>
    obtain ⟨c, hcell, hp⟩ := bind_eq_ok.mp hp
    obtain ⟨-, rfl⟩ := Tree.makeCell_eq_ok.mp hcell
    obtain ⟨u, hu, hp⟩ := map_eq_ok.mp hp
    cases hp
    rw [hn] at haligned
    refine hv.insert hc (addNat_sequence haligned hb) ?_
    rwa [ht, hroot]
  · simp at hp

end Displays

namespace Shows

/-- A field that is read is that of the view, and reading leaves the view and the key alone. -/
theorem read (hc : cfg.HoldsBoard) (hv : Shows v s.context.tree) {cached : Bool}
    {form : Datum → Option α} {a : α}
    (h : (slot.read cfg cached >>= fun d => expect (form d)) s = .ok a s') :
    form (v.field slot) = some a ∧ Shows v s'.context.tree ∧
      s'.context.privateState = s.context.privateState := by
  obtain ⟨d, r, hd, he⟩ := bind_run_eq_ok.mp h
  obtain ⟨hform, rfl⟩ := expect_eq_ok.mp he
  obtain ⟨a, ha, hfrom, ht, hk⟩ := read_eq_ok hc.slots hd
  obtain ⟨b, hb, haligned⟩ := hv.index slot
  cases ha.symm.trans hb
  cases hfrom.symm.trans (fromAligned_field haligned)
  exact ⟨hform, ht ▸ hv, hk⟩

theorem exists_read (hc : cfg.HoldsBoard) (hs : Call.Ready s) (hv : Shows v s.context.tree) (slot : Slot)
    (cached : Bool) (form : Datum → Option α) {x : α} (hform : form (v.field slot) = some x) :
    ∃ s', (slot.read cfg cached >>= fun d => expect (form d)) s = .ok x s' ∧ Call.Ready s' ∧
      Shows v s'.context.tree := by
  obtain ⟨a, ha, haligned⟩ := hv.index slot
  have hp := performAll_read hc.slots slot.key cached s.context.tree
  rw [ha] at hp
  obtain ⟨s', hq, ht, -, hs'⟩ := hs.query hp
  have hread : slot.read cfg cached s = .ok (v.field slot) s' := bind_run_eq_ok.mpr
    ⟨_, s', hq, ofExcept_run_eq_ok.mpr ⟨fromAligned_field haligned, rfl⟩⟩
  exact ⟨s', bind_run_eq_ok.mpr ⟨_, s', hread, expect_eq_ok.mpr ⟨hform, rfl⟩⟩, hs', ht ▸ hv⟩

/-- A board that shows a view is read as this view. -/
theorem ofTree (hc : cfg.HoldsBoard) (hv : Shows v t) : View.ofTree cfg t = .ok v := by
  have hs : Call.Ready ⟨.detached t, .start .empty⟩ :=
    ⟨⟨_, CostModel.payable_standard, rfl⟩, rfl, rfl, rfl⟩
  obtain ⟨_, h₀, hs, hv⟩ := exists_read hc hs hv .state false Occupancy.ofDatum?
    (Occupancy.ofDatum?_toDatum v.state)
  obtain ⟨_, h₁, hs, hv⟩ := exists_read hc hs hv .message false message?
    (message?_messageDatum v.message)
  obtain ⟨_, h₂, hs, hv⟩ := exists_read hc hs hv .sequence true (fun d => d.integer?.map Int.toNat) rfl
  obtain ⟨s₃, h₃, -, -⟩ := exists_read hc hs hv .owner false Datum.bytes? rfl
  have hread : View.read cfg ⟨.detached t, .start .empty⟩ = .ok v s₃ :=
    bind_run_eq_ok.mpr ⟨_, _, h₀, bind_run_eq_ok.mpr ⟨_, _, h₁, bind_run_eq_ok.mpr
      ⟨_, _, h₂, bind_run_eq_ok.mpr ⟨_, _, h₃, rfl⟩⟩⟩⟩
  rw [View.ofTree, hread]

end Shows

theorem exists_write (hc : cfg.HoldsBoard) (hs : Call.Ready s) {items : Slot → Tree}
    (hroot : s.context.tree = rootOf items) {value : Datum} {a : AlignedValue}
    (ha : slot.descriptor.aligned value = .ok a) (hl : a.binaryLength ≤ cfg.maxCellBytes) :
    ∃ s', slot.write cfg value s = .ok () s' ∧
      s'.context.tree = rootOf (Function.update items slot (.cell a)) ∧ Call.Ready s' := by
  have hp := performAll_write hc.slots slot.key (.cell a) s.context.tree
  rw [hroot, insert_rootOf hc, ← hroot] at hp
  obtain ⟨s', hq, ht, -, hs'⟩ := hs.query hp
  refine ⟨s', bind_ofExcept_run.mpr ⟨_, ?_, bind_run_eq_ok.mpr ⟨_, s', hq, rfl⟩⟩, ht, hs'⟩
  exact bind_eq_ok.mpr ⟨_, Tree.makeCell_eq_ok.mpr ⟨binaryLength_key_le hc.slots slot, rfl⟩,
    bind_eq_ok.mpr ⟨a, ha, bind_eq_ok.mpr ⟨_, Tree.makeCell_eq_ok.mpr ⟨hl, rfl⟩, rfl⟩⟩⟩

end AlignedLedger.Board
