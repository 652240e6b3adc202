import AlignedLedger.Proofs.Board.Specification
import AlignedLedger.Proofs.Call.Agreement

/-! What the circuits of a board give away of the secret key. Two posts with two keys can be told apart
only by the owner that they write, and two take-downs that both go through cannot be told apart. -/

namespace AlignedLedger.Board

open Call

variable {cfg : Config} {slot : Slot} {s t : CallState} {ws ws' : Witnesses View} {key key' : Bytes}
variable {T : Tree → Tree → Prop} {L : List Instr → List Instr → Prop} {P : Datum → Datum → Prop}
variable {a b : AlignedValue} {p p' : Datum} {α : Type}

section Same

theorem ofExcept_same (hs : Alike T L P s t) (x : Except Fault α) :
    InStep T L P ((MonadExcept.ofExcept x : Call α) s) ((MonadExcept.ofExcept x : Call α) t) := by
  refine (RunsAgree.ofExcept (Agree.refl (R := Eq) x fun _ _ => rfl)).imp ?_
  rintro x _ _ _ ⟨rfl, rfl, rfl⟩
  exact ⟨rfl, hs⟩

/-- Whatever two answers are asked for, asking for them leaves the calls alike. -/
theorem ofExcept_apart (hs : Alike T L P s t) (x y : Except Fault α) :
    BothEnd (fun _ s' _ t' => Alike T L P s' t') ((MonadExcept.ofExcept x : Call α) s)
      ((MonadExcept.ofExcept y : Call α) t) := by
  intro _ s' _ t' hx hy
  obtain ⟨-, rfl⟩ := ofExcept_run_eq_ok.mp hx
  obtain ⟨-, rfl⟩ := ofExcept_run_eq_ok.mp hy
  exact hs

theorem expect_same (hs : Alike T L P s t) (x : Option α) :
    InStep T L P (expect x s) (expect x t) := by
  cases x with
  | some x => exact ⟨rfl, hs⟩
  | none => exact rfl

variable [Memory]

/-- What a slot has is read the same in both calls. -/
theorem read_same (hs : Alike Eq Eq P s t) (slot : Slot) (cached : Bool) :
    InStep Eq Eq P (slot.read cfg cached s) (slot.read cfg cached t) := by
  refine (hs.query_same _).bind ?_
  rintro v s t _ ⟨rfl, hs⟩
  cases v with
  | some v => exact ofExcept_same hs (slot.descriptor.fromAligned v)
  | none => exact rfl

theorem readForm_same (hs : Alike Eq Eq P s t) (slot : Slot) (cached : Bool) (form : Datum → Option α) :
    InStep Eq Eq P ((slot.read cfg cached >>= fun d => expect (form d)) s)
      ((slot.read cfg cached >>= fun d => expect (form d)) t) := by
  refine (read_same hs slot cached).bind ?_
  rintro d s _ t ⟨rfl, hs⟩
  exact expect_same hs (form d)

theorem write_same (hs : Alike Eq Eq P s t) (slot : Slot) (value : Datum) :
    InStep Eq Eq P (slot.write cfg value s) (slot.write cfg value t) := by
  refine (ofExcept_same hs (slot.writeProgram cfg value)).bind ?_
  rintro p s _ t ⟨rfl, hs⟩
  exact InStep.void (hs.query_same p)

theorem add_same (hs : Alike Eq Eq P s t) (slot : Slot) (n : Nat) :
    InStep Eq Eq P (slot.add cfg n s) (slot.add cfg n t) :=
  InStep.void (hs.query_same _)

end Same

section Key

/-- The private states are these. -/
def Secrets (p p' : Datum) (d d' : Datum) : Prop := d = p ∧ d' = p'

/-- Nothing is known of the private states. -/
def AnySecrets (_ _ : Datum) : Prop := True

/-- With this private state the witness gives this key, whatever else it sees, and any private state along
with it. -/
structure ReturnsKey (ws : Witnesses View) (p : Datum) (key : Bytes) : Prop where
  length : key.length = 32
  method : ∃ method, ws.lookup witnessName = some (.method method) ∧
    ∀ c : WitnessContext View, c.privateState = p →
      ∃ privateState value, method c = .tuple [privateState, value] ∧ value.bytes? = some key

theorem returnsKey_secretKeyWitnesses (h : key.length = 32) :
    ReturnsKey secretKeyWitnesses (.bytes key) key := by
  refine ⟨h, _, rfl, ?_⟩
  rintro c hp
  exact ⟨_, _, rfl, by rw [hp]; rfl⟩

variable [Memory]

theorem ReturnsKey.call (h : ReturnsKey ws s.context.privateState key)
    (hs : s.recorder.finished = false) (v : View) :
    ∃ value privateState outputs, value.bytes? = some key ∧
      ws.call witnessName Slot.owner.descriptor v s =
        .ok value ⟨{ s.context with privateState := privateState },
          { s.recorder with privateOutputs := outputs }⟩ := by
  obtain ⟨method, hm, hr⟩ := h.method
  obtain ⟨privateState, value, hr, hv⟩ := hr ⟨v, s.context.privateState, s.context.address⟩ rfl
  obtain ⟨a, henc, ha, -⟩ := exists_aligned_owner hv h.length
  refine ⟨value, privateState, _, hv, Witnesses.call_of_method hm ?_ ha hs⟩
  rw [hr, Witnesses.checkReturn, henc]

/-- The keys are all that the two witnesses bring into the calls. -/
theorem secretKey_agree (hs : Alike Eq L (Secrets p p') s t) (h : ReturnsKey ws p key)
    (h' : ReturnsKey ws' p' key') :
    RunsAgree (fun k s' k' t' => (k = key ∧ k' = key' ∧ Alike Eq L AnySecrets s' t') ∧
        s'.context.tree = s.context.tree ∧ ∃ v, View.ofTree cfg s.context.tree = .ok v)
      (secretKey cfg ws s) (secretKey cfg ws' t) := by
  rw [secretKey, secretKey, bind_run_of_ok (get_run s), bind_run_of_ok (get_run t), ← hs.tree]
  cases hv : View.ofTree cfg s.context.tree with
  | error e =>
    rw [bind_run_of_error (ofExcept_error e s), bind_run_of_error (ofExcept_error e t)]
    exact rfl
  | ok v =>
    rw [bind_run_of_ok (ofExcept_ok v s), bind_run_of_ok (ofExcept_ok v t)]
    obtain ⟨rfl, rfl⟩ := hs.secret
    obtain ⟨d, privateState, outputs, hd, hcall⟩ := h.call hs.isOpen.1 v
    obtain ⟨d', privateState', outputs', hd', hcall'⟩ := h'.call hs.isOpen.2 v
    rw [bind_run_of_ok hcall, bind_run_of_ok hcall', hd, hd']
    exact ⟨⟨rfl, rfl, hs.tree, hs.rates, hs.gas, hs.record, hs.input, hs.output, trivial, hs.isOpen⟩,
      rfl, v, rfl⟩

end Key

section Apart

open Machine

variable {rates : Tariff} {c d u v : Tree} {k : AlignedValue}

theorem stepsAlike_write [Memory] (hsize : c.storageSize = d.storageSize)
    (h : Agree T (u.insert cfg k c) (v.insert cfg k d)) :
    StepsAlike cfg rates [.push false (.cell k), .push true c, .ins false 1]
      [.push false (.cell k), .push true d, .ins false 1] [u] [v]
      fun x y => ∃ u' v', x = [u'] ∧ y = [v'] ∧ T u' v' := by
  refine .cons rfl (performAlike_push (s := [u]) (t := [v]) rfl _ _) ?_
  rintro _ _ ⟨rfl, rfl⟩
  refine .cons rfl (performAlike_push (s := [.cell k, u]) (t := [.cell k, v]) rfl _ _) ?_
  rintro _ _ ⟨rfl, rfl⟩
  exact .cons rfl (performAlike_ins hsize h) fun _ _ hst => .nil hst

theorem stepsAlike_add [Memory] (hu : u.orNewMap = u) (hv : v.orNewMap = v)
    (hchild : u.childOrNull k = v.childOrNull k)
    (h : ∀ c, Agree T (u.insert cfg k c) (v.insert cfg k c)) (n : Nat) :
    StepsAlike cfg rates [.idx false true [.literal k], .addi n, .ins true 1]
      [.idx false true [.literal k], .addi n, .ins true 1] [u] [v]
      fun x y => ∃ u' v', x = [u'] ∧ y = [v'] ∧ T u' v' := by
  refine .cons rfl (performAlike_idx hu hv hchild) ?_
  rintro _ _ ⟨c, rfl, rfl⟩
  refine .cons rfl (performAlike_addi (s := [.cell k, u]) (t := [.cell k, v]) rfl n c) ?_
  rintro _ _ ⟨d, rfl, rfl⟩
  exact .cons rfl (performAlike_ins rfl (h d)) fun _ _ hst => .nil hst

/-- The roots have the one owner and the other, and nothing else sets them apart. -/
abbrev OwnersIn (a b : AlignedValue) : Tree → Tree → Prop := Tree.Swapped Slot.owner.key a b

/-- The records have a write of the one owner and of the other in one place, and nothing else sets them
apart. -/
def OwnersWritten (a b : AlignedValue) (l l' : List Instr) : Prop :=
  ∃ before after, l = before ++ .push true (.cell a) :: after ∧ l' = before ++ .push true (.cell b) :: after

theorem OwnersWritten.append {l l' : List Instr} (h : OwnersWritten a b l l') (is : List Instr) :
    OwnersWritten a b (l ++ is) (l' ++ is) := by
  obtain ⟨before, after, rfl, rfl⟩ := h
  exact ⟨before, after ++ is, by simp, by simp⟩

variable [Memory]

/-- Two owners of one size are written for one price. -/
theorem write_owner_agree (hc : cfg.HoldsSlots) (hs : Alike Eq Eq P s t) (hl : key.length = 32)
    (hl' : key'.length = 32) :
    ∃ a b, Slot.owner.descriptor.aligned (.bytes key) = .ok a ∧
      Slot.owner.descriptor.aligned (.bytes key') = .ok b ∧
      InStep (OwnersIn a b) (OwnersWritten a b) P (Slot.owner.write cfg (.bytes key) s)
        (Slot.owner.write cfg (.bytes key') t) := by
  obtain ⟨a, -, ha, hsize⟩ := exists_aligned_owner (d := .bytes key) rfl hl
  obtain ⟨b, -, hb, hsize'⟩ := exists_aligned_owner (d := .bytes key') rfl hl'
  refine ⟨a, b, ha, hb, ?_⟩
  have hk := binaryLength_key_le hc .owner
  have hroom := hc.cell
  have hp := writeProgram_eq_ok.mpr ⟨a, ha, hk, by omega, rfl⟩
  have hp' := writeProgram_eq_ok.mpr ⟨b, hb, hk, by omega, rfl⟩
  rw [Slot.write, Slot.write, bind_run_of_ok (ofExcept_run_of_ok hp),
    bind_run_of_ok (ofExcept_run_of_ok hp')]
  have hcells : (Tree.cell a).storageSize = (Tree.cell b).storageSize := by
    rw [Tree.storageSize, Tree.storageSize, hsize, hsize']
  have hinsert : Agree (OwnersIn a b) (s.context.tree.insert cfg Slot.owner.key (.cell a))
      (t.context.tree.insert cfg Slot.owner.key (.cell b)) := by
    rw [← hs.tree]
    exact Tree.swapped_insert cfg _ _ a b
  refine InStep.void (hs.query_instrs (stepsAlike_write hcells hinsert) ?_)
  rintro l _ rfl
  exact ⟨l ++ [.push false (.cell Slot.owner.key)], [.ins false 1], by simp, by simp⟩

/-- What is written later does not find out the owner. -/
theorem write_apart (hs : Alike (OwnersIn a b) (OwnersWritten a b) P s t) (slot : Slot) (value : Datum) :
    InStep (OwnersIn a b) (OwnersWritten a b) P (slot.write cfg value s) (slot.write cfg value t) := by
  cases hp : slot.writeProgram cfg value with
  | error e =>
    rw [Slot.write, hp]
    exact rfl
  | ok p =>
    obtain ⟨v, -, -, -, rfl⟩ := writeProgram_eq_ok.mp hp
    rw [Slot.write, bind_run_of_ok (ofExcept_run_of_ok hp), bind_run_of_ok (ofExcept_run_of_ok hp)]
    exact InStep.void (hs.query_instrs (stepsAlike_write rfl (hs.tree.insert cfg _ _))
      fun _ _ h => h.append _)

theorem add_apart (hs : Alike (OwnersIn a b) (OwnersWritten a b) P s t) (n : Nat) :
    InStep (OwnersIn a b) (OwnersWritten a b) P (Slot.sequence.add cfg n s)
      (Slot.sequence.add cfg n t) := by
  obtain ⟨hu, hv⟩ := hs.tree.orNewMap_eq
  have hchild := hs.tree.childOrNull_eq (key_apart _ (show Slot.owner ≠ Slot.sequence by decide))
  have hsteps : StepsAlike cfg s.context.rates _ _ [s.context.tree] [t.context.tree] _ :=
    stepsAlike_add hu hv hchild (fun c => hs.tree.insert cfg _ c) n
  exact InStep.void (hs.query_instrs hsteps fun _ _ h => h.append _)

end Apart

section Circuits

/-- Which sequence number is read is known from the view. -/
theorem readSequence_agree [Memory] (hc : cfg.HoldsSlots) (hs : Alike Eq Eq P s t) {v : View}
    (hv : View.ofTree cfg s.context.tree = .ok v) :
    RunsAgree (fun n s' n' t' => n = v.sequence ∧ n' = v.sequence ∧ Alike Eq Eq P s' t')
      (readSequence cfg s) (readSequence cfg t) := by
  refine ((readForm_same hs .sequence true _).and_left (P := fun n _ => n = v.sequence) ?_).imp ?_
  · intro n s' h
    obtain ⟨d, _, hd, he⟩ := bind_run_eq_ok.mp h
    obtain ⟨a, hi, ha, -⟩ := read_eq_ok hc hd
    have hlookup := (ofTree_eq_ok_iff hc).mp hv .sequence
    cases hlookup.symm.trans (Slot.lookup_eq_ok.mpr ⟨a, hi, ha⟩)
    exact (Option.some.inj (expect_eq_ok.mp he).1).symm
  · rintro n _ _ _ ⟨⟨rfl, hs⟩, rfl⟩
    exact ⟨rfl, rfl, hs⟩

theorem postBody_agree [Memory] (hc : cfg.HoldsSlots) (hs : Alike Eq Eq (Secrets p p') s t)
    (h : ReturnsKey ws p key) (h' : ReturnsKey ws' p' key') (message : Datum) :
    RunsAgree (fun _ s' _ t' => ∃ v a b, View.ofTree cfg s.context.tree = .ok v ∧
        Slot.owner.descriptor.aligned (.bytes (publicKey key (sequenceBytes v.sequence))) = .ok a ∧
        Slot.owner.descriptor.aligned (.bytes (publicKey key' (sequenceBytes v.sequence))) = .ok b ∧
        Alike (OwnersIn a b) (OwnersWritten a b) AnySecrets s' t')
      (postBody cfg ws message s) (postBody cfg ws' message t) := by
  refine ((readForm_same hs .state false _).and_left
    (P := fun _ s' => s'.context.tree = s.context.tree) ?_).bind ?_
  · intro state s' hread
    obtain ⟨d, _, hd, he⟩ := bind_run_eq_ok.mp hread
    obtain ⟨-, rfl⟩ := expect_eq_ok.mp he
    obtain ⟨_, -, -, htree, -⟩ := read_eq_ok hc hd
    exact htree
  rintro state s₁ _ t₁ ⟨⟨rfl, hs₁⟩, htree⟩
  refine (RunsAgree.ofExcept (Agree.refl (R := Eq) (assertThat _ occupiedReason) fun _ _ => rfl)).bind ?_
  rintro _ s₁ _ t₁ ⟨-, rfl, rfl⟩
  refine (secretKey_agree hs₁ h h').bind ?_
  rintro _ s₂ _ t₂ ⟨⟨rfl, rfl, hs₂⟩, htree₂, v, hv⟩
  refine (readSequence_agree hc hs₂ (v := v) (by rwa [htree₂])).bind ?_
  rintro _ s₃ _ t₃ ⟨rfl, rfl, hs₃⟩
  have hmatches := (ofTree_eq_ok_iff hc).mp hv
  have hlength := length_sequenceBytes (hmatches.sound hc).sequence
  rw [bind_run_of_ok (ofExcept_run_of_ok (ownerKey_of_length h.length hlength)),
    bind_run_of_ok (ofExcept_run_of_ok (ownerKey_of_length h'.length hlength))]
  obtain ⟨a, b, ha, hb, howner⟩ := write_owner_agree hc hs₃ (length_publicKey _ _) (length_publicKey _ _)
  refine howner.bind ?_
  rintro _ s₄ _ t₄ ⟨-, hs₄⟩
  refine (write_apart hs₄ .message message.present).bind ?_
  rintro _ s₅ _ t₅ ⟨-, hs₅⟩
  refine (write_apart hs₅ .state Occupancy.occupied.toDatum).bind ?_
  rintro _ s₆ _ t₆ ⟨-, hs₆⟩
  refine (add_apart hs₆ 1).imp ?_
  rintro _ s₇ _ t₇ ⟨-, hs₇⟩
  rw [htree] at hv
  exact ⟨v, a, b, hv, ha, hb, hs₇⟩

/-- Whose board it is decides whether a take-down goes on, and nothing else of what it does. -/
theorem takeDownBody_bothEnd [Memory] (hs : Alike Eq Eq (Secrets p p') s t) (h : ReturnsKey ws p key)
    (h' : ReturnsKey ws' p' key') :
    BothEnd (fun former s' former' t' => former = former' ∧ Alike Eq Eq AnySecrets s' t')
      (takeDownBody cfg ws s) (takeDownBody cfg ws' t) := by
  refine (readForm_same hs .state false _).bothEnd.bind ?_
  rintro state s _ t ⟨rfl, hs⟩
  refine (ofExcept_same hs (assertThat _ emptyReason)).bothEnd.bind ?_
  rintro _ s _ t ⟨-, hs⟩
  refine (readForm_same hs .owner false _).bothEnd.bind ?_
  rintro owner s _ t ⟨rfl, hs⟩
  refine (secretKey_agree hs h h').bothEnd.bind ?_
  rintro sk s sk' t ⟨⟨rfl, rfl, hs⟩, -⟩
  refine (readForm_same hs .sequence true _).bothEnd.bind ?_
  rintro sequence s _ t ⟨rfl, hs⟩
  refine (ofExcept_apart hs (isOwner sk owner sequence) (isOwner sk' owner sequence)).bind ?_
  intro owns s owns' t hs
  refine (ofExcept_apart hs (assertThat owns notOwnerReason) (assertThat owns' notOwnerReason)).bind ?_
  intro _ s _ t hs
  refine (readForm_same hs .message false _).bothEnd.bind ?_
  rintro former s _ t ⟨rfl, hs⟩
  refine (write_same hs .state _).bothEnd.bind ?_
  rintro _ s _ t ⟨-, hs⟩
  refine (add_same hs .sequence 1).bothEnd.bind ?_
  rintro _ s _ t ⟨-, hs⟩
  refine (write_same hs .message _).bothEnd.bind ?_
  rintro _ s _ t ⟨-, hs⟩
  rintro _ _ _ _ ⟨⟩ ⟨⟩
  exact ⟨rfl, hs⟩

/-- What two circuits give, if the calls they end are alike. -/
structure ResultsAlike (T : Tree → Tree → Prop) (L : List Instr → List Instr → Prop)
    (r r' : CircuitResult) : Prop where
  result : r.result = r'.result
  tree : T r.context.tree r'.context.tree
  gas : r.gas = r'.gas
  record : L r.proof.publicTranscript r'.proof.publicTranscript
  input : r.proof.input = r'.proof.input
  output : r.proof.output = r'.proof.output

theorem ResultsAlike.publicBinary_eq {r r' : CircuitResult} (h : ResultsAlike T L r r')
    (hl : r.proof.publicTranscript = r'.proof.publicTranscript) :
    r.proof.publicBinary = r'.proof.publicBinary := by
  rw [ProofRecord.publicBinary, ProofRecord.publicBinary, ProofRecord.publicItems,
    ProofRecord.publicItems, h.input, h.output, hl]

theorem close_agree (hs : Alike T L P s t) (result : Datum) (output : AlignedValue) :
    Agree (ResultsAlike T L) (close result output s) (close result output t) := by
  rw [close, close, Recorder.setOutput, Recorder.setOutput, hs.isOpen.1, hs.isOpen.2, ← hs.output]
  cases s.recorder.output with
  | some v => exact rfl
  | none => exact ⟨rfl, hs.tree, hs.gas, hs.record, hs.input, rfl⟩

theorem alike_start (c : CallContext) (m : Meter) (p p' : Datum) (input : AlignedValue) :
    Alike Eq Eq (Secrets p p') ⟨({ c with privateState := p } : CallContext).withMeter m, .start input⟩
      ⟨({ c with privateState := p' } : CallContext).withMeter m, .start input⟩ :=
  ⟨rfl, rfl, rfl, rfl, rfl, rfl, ⟨rfl, rfl⟩, rfl, rfl⟩

theorem runCircuit_agree {c c' : CallContext} {input : AlignedValue} {x y : Call α}
    {R : α → CallState → α → CallState → Prop}
    (h : RunsAgree R (x ⟨c.withMeter (.capped cfg.limit?), .start input⟩)
      (y ⟨c'.withMeter (.capped cfg.limit?), .start input⟩)) :
    Agree (fun r r' => R r.1 r.2 r'.1 r'.2) (runCircuit cfg c input x) (runCircuit cfg c' input y) := by
  unfold runCircuit
  cases hx : x ⟨c.withMeter (.capped cfg.limit?), .start input⟩ with
  | ok a s => cases hy : y ⟨c'.withMeter (.capped cfg.limit?), .start input⟩ with
    | ok b t =>
      rw [hx, hy] at h
      exact h
    | error f t =>
      rw [hx, hy] at h
      exact h.elim
  | error e s => cases hy : y ⟨c'.withMeter (.capped cfg.limit?), .start input⟩ with
    | ok b t =>
      rw [hx, hy] at h
      exact h.elim
    | error f t =>
      rw [hx, hy] at h
      exact h

variable [Memory]

theorem post_agree (hc : cfg.HoldsSlots) (h : ReturnsKey ws p key) (h' : ReturnsKey ws' p' key')
    (c : CallContext) (message : Datum) :
    Agree (fun r r' => ∃ v a b, View.ofTree cfg c.tree = .ok v ∧
        Slot.owner.descriptor.aligned (.bytes (publicKey key (sequenceBytes v.sequence))) = .ok a ∧
        Slot.owner.descriptor.aligned (.bytes (publicKey key' (sequenceBytes v.sequence))) = .ok b ∧
        ResultsAlike (OwnersIn a b) (OwnersWritten a b) r r')
      (post cfg ws { c with privateState := p } message)
      (post cfg ws' { c with privateState := p' } message) := by
  refine (Agree.refl (R := Eq) (Descriptor.text.aligned message) fun _ _ => rfl).bind ?_
  rintro input _ rfl
  have hbody := postBody_agree hc (alike_start c (.capped cfg.limit?) p p' input) h h' message
  refine (runCircuit_agree hbody).bind ?_
  rintro ⟨_, s⟩ ⟨_, t⟩ ⟨v, a, b, hv, ha, hb, hs⟩
  exact (close_agree hs .null .empty).imp fun r r' hr => ⟨v, a, b, hv, ha, hb, hr⟩

theorem takeDown_alike (h : ReturnsKey ws p key) (h' : ReturnsKey ws' p' key') (c : CallContext)
    {r r' : CircuitResult} (hr : takeDown cfg ws { c with privateState := p } = .ok r)
    (hr' : takeDown cfg ws' { c with privateState := p' } = .ok r') : ResultsAlike Eq Eq r r' := by
  obtain ⟨⟨former, s⟩, hx, hr⟩ := bind_eq_ok.mp hr
  obtain ⟨⟨former', t⟩, hy, hr'⟩ := bind_eq_ok.mp hr'
  have hbody : BothEnd _ (takeDownBody cfg ws _) (takeDownBody cfg ws' _) :=
    takeDownBody_bothEnd (alike_start c (.capped cfg.limit?) p p' .empty) h h'
  obtain ⟨rfl, hs⟩ := hbody _ _ _ _ (runCircuit_eq_ok.mp hx) (runCircuit_eq_ok.mp hy)
  obtain ⟨output, ho, hr⟩ := bind_eq_ok.mp hr
  obtain ⟨output', ho', hr'⟩ := bind_eq_ok.mp hr'
  cases ho.symm.trans ho'
  exact (close_agree hs _ output).of_ok hr hr'

end Circuits

/-- What can be seen of a call tells no more of the secret key than the owner that a post writes. Two posts
of one message to one root fail for one reason or use the same and do the same but for this owner, and where
the owners are the same nothing in the new roots and the public parts of the records is different. Two
take-downs that both go through give the same throughout. -/
theorem circuits_hide_key [Memory] (env : Environment) (c : CallContext) (h : ReturnsKey ws p key)
    (h' : ReturnsKey ws' p' key') :
    let cfg := Config.ofEnvironment env
    let c₁ := { c with privateState := p }
    let c₂ := { c with privateState := p' }
    (∀ message : Datum,
      (∀ e, post cfg ws c₁ message = .error e ↔ post cfg ws' c₂ message = .error e) ∧
      ∀ r r', post cfg ws c₁ message = .ok r → post cfg ws' c₂ message = .ok r' →
        ∃ v a b before after, View.ofTree cfg c.tree = .ok v ∧
          Slot.owner.descriptor.aligned (.bytes (publicKey key (sequenceBytes v.sequence))) = .ok a ∧
          Slot.owner.descriptor.aligned (.bytes (publicKey key' (sequenceBytes v.sequence))) = .ok b ∧
          r.gas = r'.gas ∧
          r.proof.publicTranscript = before ++ .push true (.cell a) :: after ∧
          r'.proof.publicTranscript = before ++ .push true (.cell b) :: after ∧
          (publicKey key (sequenceBytes v.sequence) = publicKey key' (sequenceBytes v.sequence) →
            r.context.tree = r'.context.tree ∧ r.proof.publicBinary = r'.proof.publicBinary)) ∧
    ∀ r r', takeDown cfg ws c₁ = .ok r → takeDown cfg ws' c₂ = .ok r' →
      r.result = r'.result ∧ r.context.tree = r'.context.tree ∧ r.gas = r'.gas ∧
        r.proof.publicBinary = r'.proof.publicBinary := by
  intro cfg c₁ c₂
  have hc : cfg.HoldsSlots := Config.holdsSlots_ofEnvironment env
  refine ⟨fun message => ⟨(post_agree hc h h' c message).error_iff, ?_⟩, ?_⟩
  · intro r r' hr hr'
    obtain ⟨v, a, b, hv, ha, hb, halike⟩ := (post_agree hc h h' c message).of_ok hr hr'
    obtain ⟨before, after, hl, hl'⟩ := halike.record
    refine ⟨v, a, b, before, after, hv, ha, hb, halike.gas, hl, hl', fun heq => ?_⟩
    rw [heq] at ha
    cases ha.symm.trans hb
    exact ⟨halike.tree.eq_of_same, halike.publicBinary_eq (hl.trans hl'.symm)⟩
  · intro r r' hr hr'
    have halike := takeDown_alike h h' c hr hr'
    exact ⟨halike.result, halike.tree, halike.gas, halike.publicBinary_eq halike.record⟩

/-- Both posts go through, and their records are the same but for one value. -/
theorem posts_with_two_keys :
    let cfg := Config.ofEnvironment fun _ => none
    let root : Tree := .array [.cell ⟨[⟨.bytes 1, [], by decide⟩]⟩,
      .cell ⟨[⟨.bytes 1, [], by decide⟩, ⟨.compress, [], trivial⟩]⟩,
      .cell ⟨[⟨.bytes 8, [], by decide⟩]⟩, .cell ⟨[⟨.bytes 32, [], by decide⟩]⟩]
    let c := CallContext.make (.ofTree root) Address.dummy .null Tariff.standard
    let key : Bytes := List.replicate 32 1
    let other : Bytes := List.replicate 32 2
    ∃ r r', post cfg secretKeyWitnesses { c with privateState := .bytes key } (.text "hi") = .ok r ∧
      post cfg secretKeyWitnesses { c with privateState := .bytes other } (.text "hi") = .ok r' ∧
      r.gas = r'.gas ∧ ∃ a b before after,
        r.proof.publicTranscript = before ++ .push true (.cell a) :: after ∧
        r'.proof.publicTranscript = before ++ .push true (.cell b) :: after := by
  intro cfg root c key other
  have hc : cfg.HoldsSlots := Config.holdsSlots_ofEnvironment _
  have hcell : ∀ v : AlignedValue, v.binaryLength ≤ 65536 → (Tree.cell v).Built cfg := fun v hv =>
    Tree.built_cell_iff.mpr hv
  have hroot : root.Built cfg := by
    refine Tree.built_array_iff.mpr ⟨by decide, ?_⟩
    simp only [List.forall_mem_cons]
    exact ⟨hcell _ (by decide), hcell _ (by decide +kernel), hcell _ (by decide), hcell _ (by decide),
      by simp⟩
  have hfresh : fresh.Matches root := by
    intro slot
    cases slot <;> rfl
  have hpost : ∀ k : Bytes, k.length = 32 → ∃ r,
      post cfg secretKeyWitnesses { c with privateState := .bytes k } (.text "hi") = .ok r := by
    intro k hk
    obtain ⟨cell, haligned, hlength⟩ := exists_aligned_message (some "hi")
    have hfits : cell.binaryLength ≤ cfg.maxCellBytes := by
      rw [hlength]
      decide +kernel
    let ck : CallContext := { c with privateState := .bytes k }
    have hck : Unhindered cfg .standard k ck :=
      ⟨hc, by decide, by decide, CostModel.payable_standard, rfl, hroot, hk, rfl⟩
    exact (exists_post_iff hck haligned).mpr ⟨fresh, hfresh, rfl, by decide, hfits⟩
  obtain ⟨r, hr⟩ := hpost key rfl
  obtain ⟨r', hr'⟩ := hpost other rfl
  obtain ⟨hposts, -⟩ := circuits_hide_key (fun _ => none) c
    (returnsKey_secretKeyWitnesses (show key.length = 32 from rfl))
    (returnsKey_secretKeyWitnesses (show other.length = 32 from rfl))
  obtain ⟨v, a, b, before, after, -, -, -, hgas, hl, hl', -⟩ := (hposts (.text "hi")).2 r r' hr hr'
  exact ⟨r, r', hr, hr', hgas, a, b, before, after, hl, hl'⟩

end AlignedLedger.Board
