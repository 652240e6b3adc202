import AlignedLedger.Proofs.Board.Circuits
import AlignedLedger.Proofs.Fault
import AlignedLedger.Proofs.Outcome

/-! What stands in the slots of a root of any form, and what comes of reading it. A root that lacks a
slot, or has something else in it than a board would, fails with a report. -/

namespace AlignedLedger

theorem Descriptor.alignment_of_fromAligned [Memory] {d : Descriptor} {a : AlignedValue} {v : Datum}
    (h : d.fromAligned a = .ok v) : a.alignment = d.alignment := by
  unfold fromAligned at h
  split at h
  · next ha => exact ha
  · simp at h

namespace Board

open SegmentReader

variable {cfg : Config} {slot other : Slot} {a : AlignedValue} {d : Datum} {e : Fault} {t u : Tree}

/-- What reading the slot of a root gives. -/
def Slot.lookup [Memory] (slot : Slot) (t : Tree) : Except Fault Datum := do
  let u ← t.index slot.key
  let a ← u.asCell
  slot.descriptor.fromAligned a

theorem Slot.lookup_eq_ok [Memory] :
    slot.lookup t = .ok d ↔
      ∃ a, t.index slot.key = .ok (.cell a) ∧ slot.descriptor.fromAligned a = .ok d := by
  simp only [lookup, bind_eq_ok, Tree.asCell_eq_ok]
  constructor
  · rintro ⟨_, hi, a, rfl, ha⟩
    exact ⟨a, hi, ha⟩
  · rintro ⟨a, hi, ha⟩
    exact ⟨_, hi, a, rfl, ha⟩

section Reading

theorem takeNat_segment {x : Atom} {segment : Bytes} (h : x.Holds segment) (rest : List Datum) :
    takeNat x (.bytes segment :: rest) = .ok (LittleEndian.toNat segment) rest := by
  rw [takeNat, bind_run_of_ok (take_of_holds h rest)]
  rfl

variable [Memory]

theorem fromAligned_state {segment : Bytes} (h : (Atom.bytes 1).Holds segment) :
    Slot.state.descriptor.fromAligned ⟨[⟨.bytes 1, segment, h⟩]⟩ =
      match LittleEndian.toNat segment with
      | 0 => .ok Occupancy.vacant.toDatum
      | 1 => .ok Occupancy.occupied.toDatum
      | n => .error (.exceedsRange n stateClass.name) := by
  change Slot.state.descriptor.decodeData [.bytes segment] = _
  have htake := takeNat_segment h []
  rw [Slot.descriptor, Descriptor.decodeData, Descriptor.read, Descriptor.readEnum]
  generalize LittleEndian.toNat segment = n at htake
  rcases n with _ | _ | n
  · have hr : Descriptor.readRange stateClass.name 1 1 [.bytes segment] = .ok 0 [] := by
      rw [Descriptor.readRange, bind_run_of_ok htake]
      rfl
    rw [Descriptor.enumName, bind_run_of_ok hr]
    rfl
  · have hr : Descriptor.readRange stateClass.name 1 1 [.bytes segment] = .ok 1 [] := by
      rw [Descriptor.readRange, bind_run_of_ok htake]
      rfl
    rw [Descriptor.enumName, bind_run_of_ok hr]
    rfl
  · have hr : Descriptor.readRange stateClass.name 1 1 [.bytes segment] =
        .error (.exceedsRange ↑(n + 2) stateClass.name) [] := by
      rw [Descriptor.readRange, bind_run_of_ok htake]
      rfl
    rw [Descriptor.enumName, bind_run_of_error hr]
    rfl

theorem fromAligned_message {flag payload : Bytes} (hf : (Atom.bytes 1).Holds flag)
    (hp : Atom.compress.Holds payload) :
    Slot.message.descriptor.fromAligned ⟨[⟨.bytes 1, flag, hf⟩, ⟨.compress, payload, hp⟩]⟩ =
      if flag = [] then .ok (messageDatum none)
      else if flag = [1] then match Utf8.decode? payload with
        | some s => .ok (messageDatum (some s))
        | none => .error .invalidUtf8
      else .error (.invalidBoolean flag) := by
  change Slot.message.descriptor.decodeData [.bytes flag, .bytes payload] = _
  have htake := take_of_holds hf [.bytes payload]
  rw [Slot.descriptor, Descriptor.decodeData, Descriptor.read]
  by_cases h₀ : flag = []
  · have hb : Descriptor.readBool [.bytes flag, .bytes payload] = .ok false [.bytes payload] := by
      rw [Descriptor.readBool, bind_run_of_ok htake, if_pos h₀]
      rfl
    rw [bind_run_of_ok hb, if_pos h₀]
    rfl
  · rw [if_neg h₀]
    by_cases h₁ : flag = [1]
    · have hb : Descriptor.readBool [.bytes flag, .bytes payload] = .ok true [.bytes payload] := by
        rw [Descriptor.readBool, bind_run_of_ok htake, if_neg h₀, if_pos h₁]
        rfl
      rw [bind_run_of_ok hb, if_pos h₁]
      cases hs : Utf8.decode? payload with
      | some s =>
        have ht : Descriptor.text.read [.bytes payload] = .ok (.text s) [] := by
          rw [Descriptor.read, Descriptor.readText, bind_run_of_ok (take_of_holds hp []), hs]
          rfl
        rw [if_pos rfl, bind_run_of_ok ht]
        rfl
      | none =>
        have ht : Descriptor.text.read [.bytes payload] = .error .invalidUtf8 [] := by
          rw [Descriptor.read, Descriptor.readText, bind_run_of_ok (take_of_holds hp []), hs]
          rfl
        rw [if_pos rfl, bind_run_of_error ht]
    · have hb : Descriptor.readBool [.bytes flag, .bytes payload] =
          .error (.invalidBoolean flag) [.bytes payload] := by
        rw [Descriptor.readBool, bind_run_of_ok htake, if_neg h₀, if_neg h₁]
        rfl
      rw [bind_run_of_error hb, if_neg h₁]

theorem fromAligned_sequence {segment : Bytes} (h : (Atom.bytes 8).Holds segment) :
    LittleEndian.toNat segment < 2 ^ 64 ∧
      Slot.sequence.descriptor.fromAligned ⟨[⟨.bytes 8, segment, h⟩]⟩ =
        .ok (.int (LittleEndian.toNat segment)) := by
  have hlt : LittleEndian.toNat segment < 2 ^ 64 :=
    Nat.lt_of_lt_of_le (LittleEndian.toNat_lt segment) (Nat.pow_le_pow_right (by decide) h.1)
  refine ⟨hlt, ?_⟩
  change Slot.sequence.descriptor.decodeData [.bytes segment] = _
  have hr : ∀ name, Descriptor.readRange name (1 <<< 64 - 1) 8 [.bytes segment] =
      .ok (LittleEndian.toNat segment) [] := by
    intro name
    rw [Descriptor.readRange, bind_run_of_ok (takeNat_segment h []),
      if_neg (by simp only [Nat.one_shiftLeft]; omega)]
    rfl
  rw [Slot.descriptor, Descriptor.uint64, Descriptor.decodeData, Descriptor.read,
    bind_run_of_ok (hr _)]
  rfl

theorem fromAligned_owner {segment : Bytes} (h : (Atom.bytes 32).Holds segment) :
    Slot.owner.descriptor.fromAligned ⟨[⟨.bytes 32, segment, h⟩]⟩ =
      .ok (.bytes (segment.padTo 32)) := by
  change Slot.owner.descriptor.decodeData [.bytes segment] = _
  rw [Slot.descriptor, Descriptor.bytes32, Descriptor.decodeData, Descriptor.read,
    bind_run_of_ok (take_of_holds h []), Memory.request_of_le (by decide)]
  rfl

end Reading

/-- Whatever is read from a slot is the field of some view. -/
theorem exists_field_of_fromAligned [Memory] (h : slot.descriptor.fromAligned a = .ok d) :
    ∃ v : View, v.Sound ∧ d = v.field slot := by
  have halign := Descriptor.alignment_of_fromAligned h
  cases slot with
  | state =>
    obtain ⟨segment, hs, rfl⟩ := AlignedValue.exists_of_alignment_singleton halign
    rw [fromAligned_state] at h
    split at h
    · cases h
      exact ⟨fresh, fresh_sound, rfl⟩
    · cases h
      exact ⟨{ fresh with state := .occupied }, ⟨fresh_sound.sequence, fresh_sound.owner⟩, rfl⟩
    · simp at h
  | message =>
    obtain ⟨flag, hf, payload, hp, rfl⟩ := AlignedValue.exists_of_alignment_pair halign
    rw [fromAligned_message] at h
    split at h
    · cases h
      exact ⟨fresh, fresh_sound, rfl⟩
    · split at h
      · split at h
        · next s _ =>
          cases h
          exact ⟨{ fresh with message := some s }, ⟨fresh_sound.sequence, fresh_sound.owner⟩, rfl⟩
        · simp at h
      · simp at h
  | sequence =>
    obtain ⟨segment, hs, rfl⟩ := AlignedValue.exists_of_alignment_singleton halign
    obtain ⟨hlt, hr⟩ := fromAligned_sequence hs
    cases hr.symm.trans h
    exact ⟨{ fresh with sequence := LittleEndian.toNat segment }, ⟨hlt, fresh_sound.owner⟩, rfl⟩
  | owner =>
    obtain ⟨segment, hs, rfl⟩ := AlignedValue.exists_of_alignment_singleton halign
    cases (fromAligned_owner hs).symm.trans h
    refine ⟨{ fresh with owner := segment.padTo 32 }, ⟨fresh_sound.sequence, ?_⟩, rfl⟩
    exact (Bytes.length_padTo 32 segment).trans (Nat.max_eq_left hs.1)

theorem isReported_of_fromAligned [Memory] (hl : a.binaryLength < 2 ^ 64)
    (h : slot.descriptor.fromAligned a = .error e) : e.IsReported := by
  by_cases halign : a.alignment = slot.descriptor.alignment
  · cases slot with
    | state =>
      obtain ⟨segment, hs, rfl⟩ := AlignedValue.exists_of_alignment_singleton halign
      have hn := LittleEndian.toNat_lt segment
      have hpow : 256 ^ segment.length ≤ 2 ^ 64 :=
        Nat.le_trans (Nat.pow_le_pow_right (by decide) hs.1) (by decide)
      rw [fromAligned_state] at h
      split at h
      · simp at h
      · simp at h
      · obtain rfl := Except.error.inj h
        exact Fault.isReported_of_spelled_nat rfl rfl (Nat.lt_of_lt_of_le hn hpow)
    | message =>
      obtain ⟨flag, hf, payload, hp, rfl⟩ := AlignedValue.exists_of_alignment_pair halign
      rw [fromAligned_message] at h
      split at h
      · simp at h
      · split at h
        · split at h
          · simp at h
          · obtain rfl := Except.error.inj h
            exact Fault.isReported_of_spelled_nil rfl rfl
        · obtain rfl := Except.error.inj h
          exact Fault.isReported_of_spelled_nil rfl rfl
    | sequence =>
      obtain ⟨segment, hs, rfl⟩ := AlignedValue.exists_of_alignment_singleton halign
      simp [(fromAligned_sequence hs).2] at h
    | owner =>
      obtain ⟨segment, hs, rfl⟩ := AlignedValue.exists_of_alignment_singleton halign
      simp [fromAligned_owner hs] at h
  · rw [Descriptor.fromAligned, if_neg halign] at h
    obtain rfl := Except.error.inj h
    refine Label.isReported_of_spelled_lengths rfl rfl (isWritable_name slot) fun x hx => ?_
    exact Nat.lt_of_le_of_lt (AlignedValue.length_le_binaryLength hx) hl

theorem isReported_of_lookup [Memory] (hroom : cfg.maxCellBytes < 2 ^ 64) (hb : t.Built cfg)
    (h : slot.lookup t = .error e) : e.IsReported := by
  rcases bind_eq_error.mp h with hi | ⟨u, hu, h⟩
  · cases t with
    | null =>
      obtain rfl := Except.error.inj hi
      exact Fault.isReported_of_spelled_nil rfl rfl
    | cell v =>
      obtain rfl := Except.error.inj hi
      exact Fault.isReported_of_spelled_nil rfl rfl
    | array items =>
      have hkey : slot.key.toNat? = some slot.index := by cases slot <;> rfl
      have hsmall : slot.index < 2 ^ 64 := by cases slot <;> decide
      rw [Tree.index, Tree.position, hkey] at hi
      dsimp only at hi
      split at hi
      · next hlt =>
        rw [ok_bind, List.getElem?_eq_getElem hlt] at hi
        simp at hi
      · obtain rfl := Except.error.inj hi
        exact Fault.isReported_of_spelled_nat rfl rfl hsmall
    | map es =>
      rw [Tree.index] at hi
      split at hi
      · simp at hi
      · obtain rfl := Except.error.inj hi
        refine Fault.isReported_of_spelled_lengths rfl rfl ?_
        cases slot <;> decide
  · rcases bind_eq_error.mp h with ha | ⟨a, ha, hd⟩
    · cases u with
      | cell v => simp [Tree.asCell] at ha
      | _ =>
        obtain rfl := Except.error.inj ha
        exact Fault.isReported_of_spelled_nil rfl rfl
    · obtain rfl := Tree.asCell_eq_ok.mp ha
      have hl := Tree.built_cell_iff.mp (hb.index hu)
      exact isReported_of_fromAligned (Nat.lt_of_le_of_lt hl hroom) hd

section Reading

variable [Memory]

variable {s : CallState} {secret : Datum} {root : Tree} {α : Type}

theorem read_ends (hc : cfg.HoldsSlots) (hs : Call.At root secret s) (slot : Slot) (cached : Bool) :
    Ends (slot.read cfg cached s) (fun d t => slot.lookup root = .ok d ∧ Call.At root secret t)
      (fun e => slot.lookup root = .error e) := by
  have hp : Stack.performAll cfg [.dup 0, .idx false false [.literal slot.key], .popeq cached none]
      [root] = ((root.index slot.key >>= Tree.asCell).map fun a => (root, [a])).map
        fun p => ([p.1], p.2) := by
    rw [performAll_read hc]
    cases hi : root.index slot.key with
    | error e => rfl
    | ok u => cases ha : u.asCell <;> simp [ha]
  have hlookup : slot.lookup root =
      (root.index slot.key >>= Tree.asCell) >>= slot.descriptor.fromAligned := by
    cases hi : root.index slot.key <;> simp [Slot.lookup, hi]
  refine (hs.query_ends hp).bind ?_ ?_
  · rintro v t ⟨p, hx, rfl, ht⟩
    obtain ⟨a, ha, rfl⟩ := map_eq_ok.mp hx
    rw [hlookup, ha, ok_bind]
    exact .ofExcept (fun d hd => ⟨hd, ht⟩) fun e he => he
  · intro e he
    rw [hlookup, map_eq_error.mp he, error_bind]

/-- A field that is read is the one of the view that has it in its slot. -/
theorem readForm_ends (hc : cfg.HoldsSlots) (hs : Call.At root secret s) (slot : Slot) (cached : Bool)
    (form : Datum → Option α) (field : View → α) (hform : ∀ v : View, form (v.field slot) = some (field v)) :
    Ends ((slot.read cfg cached >>= fun d => expect (form d)) s)
      (fun x t => (∃ v : View, v.Sound ∧ slot.lookup root = .ok (v.field slot) ∧ x = field v) ∧
        Call.At root secret t)
      (fun e => slot.lookup root = .error e) := by
  refine (read_ends hc hs slot cached).bind ?_ fun e he => he
  rintro d t ⟨hd, ht⟩
  obtain ⟨a, -, ha⟩ := Slot.lookup_eq_ok.mp hd
  obtain ⟨v, hv, rfl⟩ := exists_field_of_fromAligned ha
  rw [hform]
  exact ⟨⟨v, hv, hd, rfl⟩, ht⟩

theorem readState_ends (hc : cfg.HoldsSlots) (hs : Call.At root secret s) :
    Ends (readState cfg s)
      (fun x t => Slot.state.lookup root = .ok x.toDatum ∧ Call.At root secret t)
      (fun e => Slot.state.lookup root = .error e) := by
  refine (readForm_ends hc hs .state false Occupancy.ofDatum? View.state
    fun v => Occupancy.ofDatum?_toDatum v.state).imp ?_ fun e he => he
  rintro x t ⟨⟨v, -, hd, rfl⟩, ht⟩
  exact ⟨hd, ht⟩

theorem readMessage_ends (hc : cfg.HoldsSlots) (hs : Call.At root secret s) :
    Ends (readMessage cfg s)
      (fun x t => Slot.message.lookup root = .ok (messageDatum x) ∧ Call.At root secret t)
      (fun e => Slot.message.lookup root = .error e) := by
  refine (readForm_ends hc hs .message false message? View.message
    fun v => message?_messageDatum v.message).imp ?_ fun e he => he
  rintro x t ⟨⟨v, -, hd, rfl⟩, ht⟩
  exact ⟨hd, ht⟩

theorem readSequence_ends (hc : cfg.HoldsSlots) (hs : Call.At root secret s) :
    Ends (readSequence cfg s)
      (fun x t => x < 2 ^ 64 ∧ Slot.sequence.lookup root = .ok (.int x) ∧ Call.At root secret t)
      (fun e => Slot.sequence.lookup root = .error e) := by
  refine (readForm_ends hc hs .sequence true (fun d => d.integer?.map Int.toNat)
    View.sequence fun v => rfl).imp ?_ fun e he => he
  rintro x t ⟨⟨v, hv, hd, rfl⟩, ht⟩
  exact ⟨hv.sequence, hd, ht⟩

theorem readOwner_ends (hc : cfg.HoldsSlots) (hs : Call.At root secret s) :
    Ends (readOwner cfg s)
      (fun x t => x.length = 32 ∧ Slot.owner.lookup root = .ok (.bytes x) ∧ Call.At root secret t)
      (fun e => Slot.owner.lookup root = .error e) := by
  refine (readForm_ends hc hs .owner false Datum.bytes? View.owner
    fun v => rfl).imp ?_ fun e he => he
  rintro x t ⟨⟨v, hv, hd, rfl⟩, ht⟩
  exact ⟨hv.owner, hd, ht⟩

/-- The root has the fields of the view in its slots. -/
def View.Matches (v : View) (root : Tree) : Prop :=
  ∀ slot : Slot, slot.lookup root = .ok (v.field slot)

theorem readView_ends (hc : cfg.HoldsSlots) (hs : Call.At root secret s) :
    Ends (View.read cfg s) (fun v _ => v.Sound ∧ v.Matches root)
      (fun e => ∃ slot : Slot, slot.lookup root = .error e) := by
  refine (readState_ends hc hs).bind ?_ fun e he => ⟨_, he⟩
  rintro state t ⟨hstate, hs⟩
  refine (readMessage_ends hc hs).bind ?_ fun e he => ⟨_, he⟩
  rintro message t ⟨hmessage, hs⟩
  refine (readSequence_ends hc hs).bind ?_ fun e he => ⟨_, he⟩
  rintro sequence t ⟨hlt, hsequence, hs⟩
  refine (readOwner_ends hc hs).bind ?_ fun e he => ⟨_, he⟩
  rintro owner t ⟨hl, howner, hs⟩
  refine ⟨⟨hlt, hl⟩, fun slot => ?_⟩
  cases slot with
  | state => exact hstate
  | message => exact hmessage
  | sequence => exact hsequence
  | owner => exact howner

end Reading

theorem View.field_injective {v w : View} (h : ∀ slot, v.field slot = w.field slot) : v = w := by
  have hstate := congrArg Occupancy.ofDatum? (h .state)
  have hmessage := congrArg message? (h .message)
  have hsequence : (v.sequence : Int) = w.sequence := Datum.int.inj (h .sequence)
  have howner : v.owner = w.owner := Datum.bytes.inj (h .owner)
  simp only [field, Occupancy.ofDatum?_toDatum, message?_messageDatum, Option.some.injEq] at hstate hmessage
  obtain ⟨_, _, _, _⟩ := v
  obtain ⟨_, _, _, _⟩ := w
  simp only at hstate hmessage hsequence howner
  simp only [View.mk.injEq]
  exact ⟨hstate, hmessage, by omega, howner⟩

variable [Memory]

theorem ofTree_outcome (hc : cfg.HoldsSlots) (t : Tree) :
    (∃ v, View.ofTree cfg t = .ok v ∧ v.Sound ∧ v.Matches t) ∨
      ∃ e, View.ofTree cfg t = .error e ∧ ∃ slot : Slot, slot.lookup t = .error e := by
  have hs : Call.At t .null ⟨.detached t, .start .empty⟩ :=
    ⟨⟨⟨_, CostModel.payable_standard, rfl⟩, rfl, rfl, rfl⟩, rfl, rfl⟩
  have h := readView_ends hc hs
  unfold View.ofTree
  cases hr : View.read cfg ⟨.detached t, .start .empty⟩ with
  | ok v s => exact .inl ⟨v, rfl, h.of_ok hr⟩
  | error e s => exact .inr ⟨e, rfl, h.of_error hr⟩

/-- A root is read as a view just if its slots are read as the fields of the view. -/
theorem ofTree_eq_ok_iff (hc : cfg.HoldsSlots) {v : View} : View.ofTree cfg t = .ok v ↔ v.Matches t := by
  rcases ofTree_outcome hc t with ⟨w, hw, -, hm⟩ | ⟨e, he, slot, hl⟩
  · rw [hw]
    constructor
    · intro h
      cases h
      exact hm
    · intro hv
      rw [View.field_injective fun slot => Except.ok.inj ((hm slot).symm.trans (hv slot))]
  · rw [he]
    constructor
    · intro h
      simp at h
    · intro hv
      simp [hv slot] at hl

theorem View.Matches.sound (hc : cfg.HoldsSlots) {v : View} (hv : v.Matches t) : v.Sound := by
  rcases ofTree_outcome hc t with ⟨w, hw, hs, -⟩ | ⟨e, he, -⟩
  · cases hw.symm.trans ((ofTree_eq_ok_iff hc).mpr hv)
    exact hs
  · cases he.symm.trans ((ofTree_eq_ok_iff hc).mpr hv)

end Board

end AlignedLedger
