import AlignedLedger.Proofs.Board.Fields
import AlignedLedger.Proofs.Board.Key

/-! What the circuits of a board do to the view that it shows, and the view of a fresh board. -/

namespace AlignedLedger.Board

variable {cfg : Config} {v : View} {s s' : CallState} {key : Bytes} {α : Type}

theorem assertThat_eq_ok {condition : Bool} {reason : String} {x : Unit}
    (h : assertThat condition reason = .ok x) : condition = true := by
  unfold assertThat at h
  split at h
  · next hh => exact hh
  · simp at h

/-- The witness gives the secret key, which is the private state. -/
theorem secretKey_eq_ok [Memory] {sk : Bytes} (hk : s.context.privateState = .bytes key)
    (h : secretKey cfg secretKeyWitnesses s = .ok sk s') :
    sk = key ∧ s'.context.tree = s.context.tree := by
  obtain ⟨_, _, ⟨⟩, h⟩ := bind_run_eq_ok.mp h
  obtain ⟨view, -, h⟩ := bind_ofExcept_run.mp h
  obtain ⟨d, r, hcall, he⟩ := bind_run_eq_ok.mp h
  obtain ⟨hd, rfl⟩ := expect_eq_ok.mp he
  obtain ⟨method, privateState, a, r, hm, hr, -, -, rfl⟩ := Witnesses.exists_of_call hcall
  obtain rfl := WitnessEntry.method.inj (Option.some.inj hm)
  rw [hk] at hr
  dsimp only [Witnesses.checkReturn] at hr
  split at hr
  · cases hr
    exact ⟨(Option.some.inj hd).symm, rfl⟩
  · split at hr <;> simp at hr

theorem postBody_eq_ok [Memory] (hc : cfg.HoldsBoard) (hv : Shows v s.context.tree)
    (hk : s.context.privateState = .bytes key) {m : String} {x : Unit}
    (h : postBody cfg secretKeyWitnesses (.text m) s = .ok x s') :
    v.state = .vacant ∧
      Shows ⟨.occupied, some m, v.sequence + 1, publicKey key (sequenceBytes v.sequence)⟩
        s'.context.tree := by
  obtain ⟨state, s₁, hstate, h⟩ := bind_run_eq_ok.mp h
  obtain ⟨_, hvacant, h⟩ := bind_ofExcept_run.mp h
  obtain ⟨sk, s₂, hsk, h⟩ := bind_run_eq_ok.mp h
  obtain ⟨sequence, s₃, hsequence, h⟩ := bind_run_eq_ok.mp h
  obtain ⟨owner, hkey, h⟩ := bind_ofExcept_run.mp h
  obtain ⟨_, s₄, howner, h⟩ := bind_run_eq_ok.mp h
  obtain ⟨_, s₅, hmessage, h⟩ := bind_run_eq_ok.mp h
  obtain ⟨_, s₆, hoccupied, hadd⟩ := bind_run_eq_ok.mp h
  obtain ⟨hf, hv, hk₁⟩ := hv.read hc hstate
  obtain rfl := Option.some.inj ((Occupancy.ofDatum?_toDatum v.state).symm.trans hf)
  obtain ⟨rfl, ht⟩ := secretKey_eq_ok (hk₁.trans hk) hsk
  rw [← ht] at hv
  obtain ⟨hf, hv, -⟩ := hv.read hc hsequence
  obtain rfl : v.sequence = sequence := Option.some.inj hf
  obtain ⟨-, -, rfl⟩ := ownerKey_eq_ok hkey
  have hd := (((hv.write hc howner).write hc hmessage).write hc hoccupied).add hc rfl hadd
  refine ⟨by simpa using assertThat_eq_ok hvacant, ?_⟩
  convert hd using 1
  funext slot
  cases slot <;> rfl

theorem takeDownBody_eq_ok [Memory] (hc : cfg.HoldsBoard) (hv : Shows v s.context.tree)
    (hk : s.context.privateState = .bytes key) {former : String}
    (h : takeDownBody cfg secretKeyWitnesses s = .ok former s') :
    v.state = .occupied ∧ 1 ≤ v.sequence ∧
      v.owner = publicKey key (sequenceBytes (v.sequence - 1)) ∧ former = v.message.getD "" ∧
      Shows ⟨.vacant, none, v.sequence + 1, v.owner⟩ s'.context.tree := by
  obtain ⟨state, s₁, hstate, h⟩ := bind_run_eq_ok.mp h
  obtain ⟨_, hoccupied, h⟩ := bind_ofExcept_run.mp h
  obtain ⟨owner, s₂, howner, h⟩ := bind_run_eq_ok.mp h
  obtain ⟨sk, s₃, hsk, h⟩ := bind_run_eq_ok.mp h
  obtain ⟨sequence, s₄, hsequence, h⟩ := bind_run_eq_ok.mp h
  obtain ⟨owns, howns, h⟩ := bind_ofExcept_run.mp h
  obtain ⟨_, hisOwner, h⟩ := bind_ofExcept_run.mp h
  obtain ⟨message, s₅, hmessage, h⟩ := bind_run_eq_ok.mp h
  obtain ⟨_, s₆, hvacant, h⟩ := bind_run_eq_ok.mp h
  obtain ⟨_, s₇, hadd, h⟩ := bind_run_eq_ok.mp h
  obtain ⟨_, s₈, hnone, ⟨⟩⟩ := bind_run_eq_ok.mp h
  obtain ⟨hf, hv, hk₁⟩ := hv.read hc hstate
  obtain rfl := Option.some.inj ((Occupancy.ofDatum?_toDatum v.state).symm.trans hf)
  obtain ⟨hf, hv, hk₂⟩ := hv.read hc howner
  obtain rfl : v.owner = owner := Option.some.inj hf
  obtain ⟨rfl, ht⟩ := secretKey_eq_ok (hk₂.trans (hk₁.trans hk)) hsk
  rw [← ht] at hv
  obtain ⟨hf, hv, -⟩ := hv.read hc hsequence
  obtain rfl : v.sequence = sequence := Option.some.inj hf
  obtain ⟨hf, hv, -⟩ := hv.read hc hmessage
  obtain rfl := Option.some.inj ((message?_messageDatum v.message).symm.trans hf)
  have hd := ((hv.write hc hvacant).add hc rfl hadd).write hc hnone
  obtain rfl := assertThat_eq_ok hisOwner
  obtain ⟨hle, hkey⟩ := of_isOwner_eq_true howns
  refine ⟨by simpa using assertThat_eq_ok hoccupied, hle, hkey, rfl, ?_⟩
  convert hd using 1
  funext slot
  cases slot <;> rfl

theorem runCircuit_eq_ok {c : CallContext} {input : AlignedValue} {body : Call α} {x : α}
    {s : CallState} :
    runCircuit cfg c input body = .ok (x, s) ↔
      body ⟨c.withMeter (.capped cfg.limit?), .start input⟩ = .ok x s := by
  unfold runCircuit
  cases body ⟨c.withMeter (.capped cfg.limit?), .start input⟩ <;> simp

theorem close_eq_ok {result : Datum} {output : AlignedValue} {s : CallState} {res : CircuitResult}
    (h : close result output s = .ok res) :
    res.result = result ∧ res.context = s.context ∧
      res.proof.publicTranscript = s.recorder.publicTranscript ∧ res.gas = s.context.gas := by
  obtain ⟨r, hr, ⟨⟩⟩ := bind_eq_ok.mp h
  have ht : r.publicTranscript = s.recorder.publicTranscript := by
    unfold Recorder.setOutput at hr
    split at hr
    · simp at hr
    · split at hr
      · simp at hr
      · cases hr
        rfl
  exact ⟨rfl, rfl, ht, rfl⟩

theorem post_eq_ok [Memory] (hc : cfg.HoldsBoard) {c : CallContext} (hv : Shows v c.tree)
    (hk : c.privateState = .bytes key) {m : String} {res : CircuitResult}
    (h : post cfg secretKeyWitnesses c (.text m) = .ok res) :
    v.state = .vacant ∧ res.result = .null ∧
      Shows ⟨.occupied, some m, v.sequence + 1, publicKey key (sequenceBytes v.sequence)⟩
        res.context.tree := by
  obtain ⟨input, -, h⟩ := bind_eq_ok.mp h
  obtain ⟨⟨_, s⟩, hx, hclose⟩ := bind_eq_ok.mp h
  obtain ⟨hvacant, hs⟩ := postBody_eq_ok hc hv hk (runCircuit_eq_ok.mp hx)
  obtain ⟨hresult, hcontext, -, -⟩ := close_eq_ok hclose
  exact ⟨hvacant, hresult, by rwa [hcontext]⟩

theorem takeDown_eq_ok [Memory] (hc : cfg.HoldsBoard) {c : CallContext} (hv : Shows v c.tree)
    (hk : c.privateState = .bytes key) {res : CircuitResult}
    (h : takeDown cfg secretKeyWitnesses c = .ok res) :
    v.state = .occupied ∧ 1 ≤ v.sequence ∧
      v.owner = publicKey key (sequenceBytes (v.sequence - 1)) ∧
      res.result = .text (v.message.getD "") ∧
      Shows ⟨.vacant, none, v.sequence + 1, v.owner⟩ res.context.tree := by
  obtain ⟨⟨former, s⟩, hx, h⟩ := bind_eq_ok.mp h
  obtain ⟨output, -, hclose⟩ := bind_eq_ok.mp h
  obtain ⟨hoccupied, hle, howner, rfl, hs⟩ := takeDownBody_eq_ok hc hv hk (runCircuit_eq_ok.mp hx)
  obtain ⟨hresult, hcontext, -, -⟩ := close_eq_ok hclose
  exact ⟨hoccupied, hle, howner, hresult, by rwa [hcontext]⟩

theorem emptyRoot_eq_ok (hc : cfg.HoldsBoard) : emptyRoot cfg = .ok (rootOf fun _ => .null) := by
  have hpush : ∀ items : List Tree, items.length < 4 →
      (Tree.array items).push cfg .null = .ok (.array (items ++ [.null])) := by
    intro items h
    exact if_pos (by simpa using Nat.le_trans h hc.array)
  simp [emptyRoot, List.replicate, Tree.newArray, rootOf, hpush]

theorem exists_initialState [Memory] (hc : cfg.HoldsBoard) {address : Datum} {b : Bytes}
    (ha : Address.ofDatum address = .ok b) (privateState : Datum) :
    ∃ c, initialState cfg address privateState = .ok c ∧ Shows fresh c.tree := by
  choose a h hl using fun slot => exists_aligned_field slot fresh_sound fun _ => rfl
  have hfits : ∀ slot, (a slot).binaryLength ≤ cfg.maxCellBytes := fun slot =>
    (hl slot).trans hc.cell
  let c := CallContext.make (.ofTree (rootOf fun _ => .null)) b privateState Tariff.standard
  have hs : Call.Ready ⟨c, .start .empty⟩ :=
    ⟨⟨_, CostModel.payable_standard, rfl⟩, rfl, rfl, rfl⟩
  have ht : c.tree = rootOf fun _ => .null := rfl
  obtain ⟨_, hw₀, ht, hs⟩ := exists_write hc hs ht (h .state) (hfits .state)
  obtain ⟨_, hw₁, ht, hs⟩ := exists_write hc hs ht (h .message) (hfits .message)
  obtain ⟨_, hw₂, ht, hs⟩ := exists_write hc hs ht (h .sequence) (hfits .sequence)
  obtain ⟨s, hw₃, ht, -⟩ := exists_write hc hs ht (h .owner) (hfits .owner)
  have hfill : fillBody cfg ⟨c, .start .empty⟩ = .ok () s :=
    bind_run_eq_ok.mpr ⟨_, _, hw₀, bind_run_eq_ok.mpr ⟨_, _, hw₁, bind_run_eq_ok.mpr
      ⟨_, _, hw₂, hw₃⟩⟩⟩
  refine ⟨s.context, ?_, a, ht, h⟩
  simp only [initialState, emptyRoot_eq_ok hc, ha, ok_bind]
  rw [hfill]
  rfl

end AlignedLedger.Board
