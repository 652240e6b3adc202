import AlignedLedger.Proofs.Board.Specification
import AlignedLedger.Proofs.Board.CutOff
import AlignedLedger.Proofs.Call.Spending

/-! What the circuits of a board use by the standard rates, whatever the root, the witnesses and the caps:
a post pays for the length of its message, and a take-down uses the same every time. -/

namespace AlignedLedger.Board

open Call Metering

variable {cfg : Config} {ws : Witnesses View} {slot : Slot} {value : Datum} {a cell : AlignedValue}
variable {kind : Tree → Prop} {α : Type}

/-- A number in the third slot takes up eight bytes. -/
def CountsInEight (t : Tree) : Prop :=
  ∀ v, t.index Slot.sequence.key = .ok (.cell v) → v.alignment = [.bytes 8]

theorem binaryLength_of_alignment (h : a.alignment = [.bytes 8]) : a.binaryLength = 8 := by
  obtain ⟨segment, hs, rfl⟩ := AlignedValue.exists_of_alignment_singleton h
  exact Nat.max_eq_left hs.1

/-- Other slots have no part in it. -/
theorem CountsInEight.insert [Memory] {t u c : Tree} (ht : CountsInEight t) (hslot : slot ≠ .sequence)
    (hu : t.insert cfg slot.key c = .ok u) : CountsInEight u := by
  intro v hv
  rw [Tree.index_insert_of_apart hu (key_apart t hslot)] at hv
  exact ht v hv

section Programs

variable [Memory]

theorem bytesWritten_read (key : AlignedValue) (cached : Bool) (t : Tree) :
    Stack.bytesWritten cfg [.dup 0, .idx false false [.literal key], .popeq cached none] [t] = 0 := by
  simp only [Stack.bytesWritten, Instr.bytesWritten]
  repeat' split
  all_goals rfl

theorem bytesWritten_write (hc : cfg.HoldsSlots) (key : AlignedValue) (t : Tree) :
    Stack.bytesWritten cfg [.push false (.cell key), .push true (.cell a), .ins false 1] [t] =
      1 + a.binaryLength := by
  have hpush : ∀ persist v (s : Stack), s.length < 3 →
      Stack.perform cfg (.push persist v) s = .ok (v :: s, none) := by
    intro persist v s h
    rw [Stack.perform, Stack.push, if_pos (Nat.lt_of_lt_of_le h hc.stack)]
    rfl
  rw [Stack.bytesWritten_cons (hpush false _ [t] (by simp)),
    Stack.bytesWritten_cons (hpush true _ [_, t] (by simp)), Stack.bytesWritten_singleton]
  simp only [Instr.bytesWritten, Tree.storageSize, Nat.zero_add]

/-- The sum stands in a slot of eight bytes, as the number did. -/
theorem bytesWritten_sum {t : Tree} (ht : CountsInEight t) {n : Nat} {s₁ s₂ : Stack}
    {r₁ r₂ : Option AlignedValue}
    (h₁ : Stack.perform cfg (.idx false true [.literal Slot.sequence.key]) [t] = .ok (s₁, r₁))
    (h₂ : Stack.perform cfg (.addi n) s₁ = .ok (s₂, r₂)) :
    (Instr.ins true 1).bytesWritten s₂ = 9 := by
  obtain ⟨s₁, hidx, ⟨⟩⟩ := map_eq_ok.mp h₁
  obtain ⟨s₂, hadd, ⟨⟩⟩ := map_eq_ok.mp h₂
  obtain ⟨-, _, x, r, child, _, ⟨⟩, hwalk, hpush⟩ := Stack.idx_eq_ok.mp hidx
  obtain ⟨-, -, child, hchild, ⟨⟩⟩ := Stack.recordedWalk_cons.mp hwalk
  obtain ⟨-, rfl⟩ := Stack.push_eq_ok.mp hpush
  obtain ⟨⟨v, rest⟩, hv, hadd⟩ := bind_eq_ok.mp hadd
  obtain ⟨rfl, rfl⟩ := List.cons.inj (Stack.popCell_eq_ok.mp hv)
  dsimp only at hadd
  split at hadd
  · next w hw =>
    obtain ⟨_, hcell, hpush⟩ := bind_eq_ok.mp hadd
    obtain ⟨-, rfl⟩ := Tree.makeCell_eq_ok.mp hcell
    obtain ⟨-, rfl⟩ := Stack.push_eq_ok.mp hpush
    rcases Tree.childOrNull_eq_ok hchild with hi | ⟨⟨⟩, -⟩
    have hv8 := binaryLength_of_alignment (ht v (Tree.orNewMap_index.mp hi))
    rw [Instr.bytesWritten, Tree.storageSize, AlignedValue.binaryLength_addNat hw, hv8]
  · simp at hadd

theorem bytesWritten_add {t : Tree} (ht : CountsInEight t) (n : Nat) :
    Stack.bytesWritten cfg [.idx false true [.literal Slot.sequence.key], .addi n, .ins true 1] [t] ≤ 9 ∧
      ∀ x, Stack.performAll cfg [.idx false true [.literal Slot.sequence.key], .addi n, .ins true 1]
        [t] = .ok x → Stack.bytesWritten cfg
          [.idx false true [.literal Slot.sequence.key], .addi n, .ins true 1] [t] = 9 := by
  cases h₁ : Stack.perform cfg (.idx false true [.literal Slot.sequence.key]) [t] with
  | error e =>
    rw [Stack.bytesWritten_cons_of_error h₁, Stack.performAll, h₁, error_bind]
    exact ⟨Nat.zero_le 9, by rintro x ⟨⟩⟩
  | ok p =>
    rw [Stack.bytesWritten_cons h₁, Stack.performAll_cons h₁]
    cases h₂ : Stack.perform cfg (.addi n) p.1 with
    | error e =>
      rw [Stack.bytesWritten_cons_of_error h₂, Stack.performAll, h₂, error_bind]
      exact ⟨Nat.zero_le 9, by rintro x ⟨⟩⟩
    | ok q =>
      rw [Stack.bytesWritten_cons h₂, Stack.bytesWritten_singleton, bytesWritten_sum ht h₁ h₂]
      exact ⟨Nat.le_refl 9, fun _ _ => rfl⟩

end Programs

section Parts

theorem expect_uses (x : Option α) : Uses 0 (Priced kind) (expect x) fun _ => Priced kind := by
  cases x with
  | none => exact .throw _
  | some a => exact .pure fun _ hs => hs

theorem assertThat_uses (condition : Bool) (reason : String) :
    Uses 0 (Priced kind) (MonadExcept.ofExcept (assertThat condition reason)) fun _ => Priced kind :=
  .ofExcept fun _ _ hs _ => hs

variable [Memory]

theorem read_uses (hc : cfg.HoldsSlots) {next : Tree → Prop} (cached : Bool)
    (hnext : ∀ t a d, kind t → t.index slot.key = .ok (.cell a) →
      slot.descriptor.fromAligned a = .ok d → next t) :
    Uses (if cached then 11 else 14) (Priced kind) (slot.read cfg cached) fun _ => Priced next := by
  have hsum : ([Instr.dup 0, .idx false false [.literal slot.key], .popeq cached none].map
      CostModel.standard.costOf).sum = ((if cached then 11 else 14 : Nat) : Int) := by
    cases cached <;> rfl
  have hquery : Uses _ (Priced kind) (query cfg (slot.readProgram cached)) _ :=
    query_uses hsum fun t _ => ⟨Nat.le_of_eq (bytesWritten_read slot.key cached t), fun _ _ =>
      bytesWritten_read slot.key cached t⟩
  have hread : Uses _ (Priced kind) (slot.read cfg cached) fun _ s => s.context.rates = Tariff.standard :=
    hquery.bind fun v => by
      cases v with
      | none => exact .throw _
      | some v => exact .ofExcept fun _ _ hs _ => hs
  refine hread.of_ok fun s d t hs hrates h => ⟨hrates, ?_⟩
  obtain ⟨a, hi, hd, htree, -⟩ := read_eq_ok hc h
  rw [htree]
  exact hnext _ a d hs.2 hi hd

theorem readField_uses (hc : cfg.HoldsSlots) {form : Datum → Option α} (cached : Bool) :
    Uses (if cached then 11 else 14) (Priced kind) (slot.read cfg cached >>= fun d => expect (form d))
      fun _ => Priced kind :=
  (read_uses hc cached fun _ _ _ ht _ _ => ht).bind fun _ => expect_uses _

/-- A number that was read is in the place for one. -/
theorem readSequence_uses (hc : cfg.HoldsSlots) :
    Uses 11 (Priced kind) (readSequence cfg) fun _ => Priced CountsInEight := by
  refine (read_uses hc true fun t a d _ hi hd v hv => ?_).bind fun d => expect_uses _
  cases hi.symm.trans hv
  exact Descriptor.alignment_of_fromAligned hd

theorem write_uses (hc : cfg.HoldsSlots) (ha : slot.descriptor.aligned value = .ok a)
    (hkind : ∀ t u, kind t → t.insert cfg slot.key (.cell a) = .ok u → kind u) :
    Uses (13 + a.binaryLength) (Priced kind) (slot.write cfg value) fun _ => Priced kind := by
  let is : List Instr := [.push false (.cell slot.key), .push true (.cell a), .ins false 1]
  have hquery : Uses (12 + (1 + a.binaryLength)) (Priced kind) (query cfg (.ofInstrs is))
      fun _ s => s.context.rates = Tariff.standard :=
    query_uses rfl fun t _ => ⟨Nat.le_of_eq (bytesWritten_write hc slot.key t), fun _ _ =>
      bytesWritten_write hc slot.key t⟩
  have hprogram : Uses 0 (Priced kind) (MonadExcept.ofExcept (slot.writeProgram cfg value))
      fun p s => p = .ofInstrs is ∧ Priced kind s := by
    refine .ofExcept fun s p hs hp => ?_
    obtain ⟨b, hb, -, -, rfl⟩ := writeProgram_eq_ok.mp hp
    cases ha.symm.trans hb
    exact ⟨rfl, hs⟩
  have hwrite : Uses (0 + (12 + (1 + a.binaryLength) + 0)) (Priced kind) (slot.write cfg value)
      fun _ s => s.context.rates = Tariff.standard := by
    refine hprogram.bind fun p => ?_
    rintro s ⟨rfl, hs⟩
    exact (hquery.bind fun _ => .pure fun _ hs => hs) s hs
  have hn : 0 + (12 + (1 + a.binaryLength) + 0) = 13 + a.binaryLength := by omega
  rw [hn] at hwrite
  refine hwrite.of_ok fun s x t hs hrates h => ⟨hrates, ?_⟩
  obtain ⟨b, hb, hu⟩ := write_eq_ok hc h
  cases ha.symm.trans hb
  exact hkind _ _ hs.2 hu

theorem writeApart_uses (hc : cfg.HoldsSlots) (hslot : slot ≠ .sequence)
    (ha : slot.descriptor.aligned value = .ok a) :
    Uses (13 + a.binaryLength) (Priced CountsInEight) (slot.write cfg value)
      fun _ => Priced CountsInEight :=
  write_uses hc ha fun _ _ ht hu => CountsInEight.insert ht hslot hu

theorem add_uses (amount : Nat) :
    Uses 24 (Priced CountsInEight) (Slot.sequence.add cfg amount) fun _ => Priced fun _ => True := by
  have hquery : Uses (15 + 9) (Priced CountsInEight) (query cfg (Slot.sequence.addProgram amount))
      fun _ s => s.context.rates = Tariff.standard :=
    query_uses rfl fun t ht => bytesWritten_add ht amount
  exact hquery.bind fun _ => .pure fun _ hs => ⟨hs, trivial⟩

theorem secretKey_uses : Uses 0 (Priced kind) (secretKey cfg ws) fun _ => Priced kind := by
  have hget : Uses 0 (Priced kind) (get : Call CallState) fun _ => Priced kind := .get
  change Uses (0 + (0 + (0 + 0))) (Priced kind) (secretKey cfg ws) _
  refine hget.bind fun s => ?_
  have hview : Uses 0 (Priced kind) (MonadExcept.ofExcept (View.ofTree cfg s.context.tree) : Call View)
      fun _ => Priced kind := .ofExcept fun _ _ hs _ => hs
  refine hview.bind fun view => ?_
  have hcall : Uses 0 (Priced kind) (ws.call witnessName Slot.owner.descriptor view)
      fun _ => Priced kind := by
    refine .of_unmetered (ws.call_unmetered _ _ view) fun s d t hs h => ?_
    obtain ⟨_, _, _, _, -, -, -, -, rfl⟩ := Witnesses.exists_of_call h
    exact hs
  exact hcall.bind fun d => expect_uses _

end Parts

variable [Memory]

section Bodies

theorem writeState_uses (hc : cfg.HoldsSlots) (o : Occupancy) :
    Uses 14 (Priced CountsInEight) (Slot.state.write cfg o.toDatum) fun _ => Priced CountsInEight := by
  obtain ⟨a, ha, hl⟩ := exists_aligned_state o
  have hwrite := writeApart_uses hc (by decide) ha
  rwa [hl] at hwrite

theorem writeNone_uses (hc : cfg.HoldsSlots) :
    Uses 15 (Priced fun _ => True) (Slot.message.write cfg (messageDatum none))
      fun _ => Priced fun _ => True := by
  obtain ⟨a, ha, hl⟩ := exists_aligned_none
  have hwrite : Uses _ (Priced fun _ => True) (Slot.message.write cfg (messageDatum none)) _ :=
    write_uses hc ha fun _ _ ht _ => ht
  rwa [hl] at hwrite

theorem ownerKey_uses (sk sequence : Bytes) :
    Uses 0 (Priced kind) (MonadExcept.ofExcept (ownerKey sk sequence))
      fun owner s => owner.length = 32 ∧ Priced kind s := by
  refine .ofExcept fun s owner hs h => ?_
  obtain ⟨-, -, rfl⟩ := ownerKey_eq_ok h
  exact ⟨length_publicKey sk sequence, hs⟩

theorem writeOwner_uses (hc : cfg.HoldsSlots) {owner : Bytes} (hlength : owner.length = 32) :
    Uses 45 (Priced CountsInEight) (Slot.owner.write cfg (.bytes owner))
      fun _ => Priced CountsInEight := by
  obtain ⟨a, -, ha, hl⟩ := exists_aligned_owner (d := .bytes owner) rfl hlength
  have hwrite := writeApart_uses hc (by decide) ha
  rwa [hl] at hwrite

/-- The sequence is read before it is added to, so its slot is known by then. -/
theorem takeDownBody_uses (hc : cfg.HoldsSlots) :
    Uses 106 (Priced kind) (takeDownBody cfg ws) fun _ => Priced fun _ => True := by
  change Uses (14 + (0 + (14 + (0 + (11 + (0 + (0 + (14 + (14 + (24 + (15 + 0))))))))))) _ _ _
  refine (readField_uses hc false).bind fun state => (assertThat_uses _ _).bind fun _ => ?_
  refine (readField_uses hc false).bind fun owner => secretKey_uses.bind fun sk => ?_
  refine (readSequence_uses hc).bind fun sequence => ?_
  have howns (sk owner : Bytes) : Uses 0 (Priced CountsInEight)
      (MonadExcept.ofExcept (isOwner sk owner sequence)) fun _ => Priced CountsInEight :=
    .ofExcept fun _ _ hs _ => hs
  refine (howns sk owner).bind fun owns => (assertThat_uses _ _).bind fun _ => ?_
  refine (readField_uses hc false).bind fun former => (writeState_uses hc .vacant).bind fun _ => ?_
  exact (add_uses 1).bind fun _ => (writeNone_uses hc).bind fun _ => .pure fun _ hs => hs

theorem postBody_uses (hc : cfg.HoldsSlots) {message : Datum}
    (hcell : Slot.message.descriptor.aligned message.present = .ok cell) :
    Uses (121 + cell.binaryLength) (Priced kind) (postBody cfg ws message)
      fun _ => Priced fun _ => True := by
  have hn : 14 + (0 + (0 + (11 + (0 + (45 + (13 + cell.binaryLength + (14 + 24))))))) =
      121 + cell.binaryLength := by omega
  rw [← hn]
  refine (readField_uses hc false).bind fun state => (assertThat_uses _ _).bind fun _ => ?_
  refine secretKey_uses.bind fun sk => (readSequence_uses hc).bind fun sequence => ?_
  refine (ownerKey_uses sk _).bind fun owner => ?_
  rintro s ⟨hlength, hs⟩
  refine ((writeOwner_uses hc hlength).bind fun _ => ?_) s hs
  refine (writeApart_uses hc (by decide) hcell).bind fun _ => ?_
  exact (writeState_uses hc .occupied).bind fun _ => add_uses 1

end Bodies

end AlignedLedger.Board
