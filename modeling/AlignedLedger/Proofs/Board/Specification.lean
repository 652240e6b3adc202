import AlignedLedger.Proofs.Board.Changes

/-! What the circuits of a board come to on roots of every form: just when they succeed, what the board
shows then, and how they fail otherwise. -/

namespace AlignedLedger.Board

variable {cfg : Config} {root : Tree} {s : CallState} {key : Bytes} {v : View} {e : Fault}
variable {slot : Slot} {a : AlignedValue} {message : String}

/-- A post with this cell for its message goes through. -/
structure Postable [Memory] (cfg : Config) (cell : AlignedValue) (root : Tree) (v : View) : Prop where
  matches_root : v.Matches root
  vacant : v.state = .vacant
  counts : v.sequence + 1 < 2 ^ 64
  fits : cell.binaryLength ≤ cfg.maxCellBytes

/-- A take-down with this secret key goes through. -/
structure Removable [Memory] (key : Bytes) (root : Tree) (v : View) : Prop where
  matches_root : v.Matches root
  occupied : v.state = .occupied
  posted : 1 ≤ v.sequence
  counts : v.sequence + 1 < 2 ^ 64
  owner : v.owner = publicKey key (sequenceBytes (v.sequence - 1))

theorem View.Matches.unique [Memory] {w : View} (hv : v.Matches root) (hw : w.Matches root) : w = v :=
  View.field_injective fun slot => Except.ok.inj ((hw slot).symm.trans (hv slot))

/-- One view decides for all, as a root has no more than one. -/
theorem View.Matches.forall_not [Memory] {P : View → Prop} (hv : v.Matches root) (h : ¬ P v) :
    ∀ w : View, w.Matches root → ¬ P w := by
  intro w hw hp
  rw [hv.unique hw] at hp
  exact h hp

theorem not_matches_of_lookup [Memory] (h : slot.lookup root = .error e) (v : View) : ¬ v.Matches root := by
  intro hv
  simp [hv slot] at h

theorem Occupancy.toDatum_injective : Function.Injective toDatum := by
  intro x y h
  have hh := congrArg ofDatum? h
  rw [ofDatum?_toDatum, ofDatum?_toDatum] at hh
  exact Option.some.inj hh

theorem View.Matches.state_eq [Memory] (hv : v.Matches root) {o : Occupancy}
    (ho : Slot.state.lookup root = .ok o.toDatum) : v.state = o :=
  Occupancy.toDatum_injective (Except.ok.inj ((hv .state).symm.trans ho))

theorem View.Matches.sequence_eq [Memory] (hv : v.Matches root) {n : Nat}
    (hn : Slot.sequence.lookup root = .ok (.int n)) : v.sequence = n :=
  Int.ofNat.inj (Datum.int.inj (Except.ok.inj ((hv .sequence).symm.trans hn)))

theorem View.Matches.owner_eq [Memory] (hv : v.Matches root) {b : Bytes}
    (hb : Slot.owner.lookup root = .ok (.bytes b)) : v.owner = b :=
  Datum.bytes.inj (Except.ok.inj ((hv .owner).symm.trans hb))

theorem View.Matches.message_eq [Memory] (hv : v.Matches root) {m : Option String}
    (hm : Slot.message.lookup root = .ok (messageDatum m)) : v.message = m := by
  have hh := congrArg message? (Except.ok.inj ((hv .message).symm.trans hm))
  rw [View.field, message?_messageDatum, message?_messageDatum] at hh
  exact Option.some.inj hh

section Parts

theorem assertThat_ends (condition : Bool) (reason : String) (s : CallState) :
    Ends ((MonadExcept.ofExcept (assertThat condition reason) : Call Unit) s)
      (fun _ t => condition = true ∧ t = s)
      (fun e => condition = false ∧ e = .assertionFailed reason) := by
  cases condition with
  | true => exact ⟨rfl, rfl⟩
  | false => exact ⟨rfl, rfl⟩

/-- The secret key is only asked for with a view of the whole board, which has to be there. -/
theorem secretKey_ends [Memory] (hc : cfg.HoldsSlots) (hkey : key.length = 32)
    (hs : Call.At root (.bytes key) s) :
    Ends (secretKey cfg secretKeyWitnesses s)
      (fun sk t => sk = key ∧ (∃ v : View, v.Matches root) ∧ Call.At root (.bytes key) t)
      (fun e => ∃ slot : Slot, slot.lookup root = .error e) := by
  have hget : Ends ((get : Call CallState) s) (fun x t => x = s ∧ t = s)
      (fun e => ∃ slot : Slot, slot.lookup root = .error e) := ⟨rfl, rfl⟩
  refine hget.bind ?_ fun e he => he
  rintro _ t ⟨rfl, rfl⟩
  rw [hs.tree]
  rcases ofTree_outcome hc root with ⟨v, hv, -, hm⟩ | ⟨e, he, hl⟩
  · rw [bind_run_of_ok (ofExcept_run_of_ok hv)]
    obtain ⟨a, henc, ha, -⟩ := exists_aligned_owner (d := .bytes key) rfl hkey
    let method : WitnessContext View → Datum := fun c => .tuple [c.privateState, c.privateState]
    have hmethod : secretKeyWitnesses.lookup witnessName = some (.method method) := rfl
    have hreturn : Witnesses.checkReturn witnessName
        (method ⟨v, t.context.privateState, t.context.address⟩) Slot.owner.descriptor =
          .ok (.bytes key, .bytes key) := by
      dsimp only [method]
      rw [hs.secret, Witnesses.checkReturn, henc]
    rw [bind_run_of_ok (Witnesses.call_of_method hmethod hreturn ha hs.ready.isOpen)]
    have hready := hs.ready
    exact ⟨rfl, ⟨v, hm⟩, ⟨hready.rates, hready.limit, hready.isOpen, hready.noOutput⟩, hs.tree, rfl⟩
  · rw [bind_run_of_error (ofExcept_run_of_error he)]
    exact hl

end Parts

theorem aligned_text [Memory] (text : String) : ∃ a, Descriptor.text.aligned (.text text) = .ok a := by
  have henc : Descriptor.text.encode (.text text) = .ok [Utf8.encode text] := rfl
  obtain ⟨a, ha, -, -⟩ := Descriptor.aligned_of_encode (show Descriptor.text.WellFormed from trivial) henc
  exact ⟨a, ha⟩

/-- What is no text at all is refused with a report. -/
theorem encode_text_of_ne [Memory] {v : Datum} (ht : ∀ text, v ≠ .text text) (hb : ∀ text, v ≠ .broken text) :
    ∃ e, Descriptor.text.encode v = .error e ∧ e.IsReported := by
  cases v with
  | text text => exact absurd rfl (ht text)
  | broken text => exact absurd rfl (hb text)
  | _ => exact ⟨_, rfl, Fault.isReported_of_spelled_nil rfl rfl⟩

section Post

variable [Memory]

variable {cell : AlignedValue}

/-- A post cannot go through, and fails with a report, which names the reason if it is known at once. -/
structure PostRefused (cfg : Config) (cell : AlignedValue) (root : Tree) (e : Fault) : Prop where
  not_postable : ∀ v, ¬ Postable cfg cell root v
  reported : e.IsReported ∨ cell.requestBinary = .error e
  reason : Slot.state.lookup root = .ok Occupancy.occupied.toDatum → e = .assertionFailed occupiedReason

theorem postRefused_of_lookup (hroom : cfg.maxCellBytes < 2 ^ 64) (hb : root.Built cfg)
    (hl : slot.lookup root = .error e)
    (hstate : Slot.state.lookup root ≠ .ok Occupancy.occupied.toDatum) :
    PostRefused cfg cell root e where
  not_postable v hv := not_matches_of_lookup hl v hv.matches_root
  reported := .inl (isReported_of_lookup hroom hb hl)
  reason h := absurd h hstate

theorem View.Matches.postRefused (hv : v.Matches root) (hvacant : v.state = .vacant)
    (hn : ¬ Postable cfg cell root v) (he : e.IsReported ∨ cell.requestBinary = .error e) :
    PostRefused cfg cell root e where
  not_postable w hw := hv.forall_not hn w hw.matches_root hw
  reported := he
  reason h := by
    rw [hv.state_eq h] at hvacant
    cases hvacant

theorem postBody_ends (hc : cfg.HoldsSlots) (hroom : cfg.maxCellBytes < 2 ^ 64) (hb : root.Built cfg)
    (hkey : key.length = 32) (hs : Call.At root (.bytes key) s)
    (hcell : Slot.message.descriptor.aligned (messageDatum (some message)) = .ok cell) :
    Ends (postBody cfg secretKeyWitnesses (.text message) s)
      (fun _ t => ∃ v, Postable cfg cell root v ∧ ∃ u, Call.At u (.bytes key) t ∧
        Carries cfg root (View.field ⟨.occupied, some message, v.sequence + 1,
          publicKey key (sequenceBytes v.sequence)⟩) u)
      (PostRefused cfg cell root) := by
  refine (readState_ends hc hs).bind ?_ fun e he => postRefused_of_lookup hroom hb he (by simp [he])
  rintro state t ⟨hstate, hs⟩
  refine (assertThat_ends _ occupiedReason t).bind ?_ ?_
  · rintro _ _ ⟨hvacant, rfl⟩
    obtain rfl : state = .vacant := by simpa using hvacant
    have hne : Slot.state.lookup root ≠ .ok Occupancy.occupied.toDatum := by
      rw [hstate]
      intro h
      cases Occupancy.toDatum_injective (Except.ok.inj h)
    refine (secretKey_ends hc hkey hs).bind ?_
      fun e ⟨slot, he⟩ => postRefused_of_lookup hroom hb he hne
    rintro sk t ⟨rfl, ⟨v, hv⟩, hs⟩
    have hvacant := hv.state_eq hstate
    refine (readSequence_ends hc hs).bind ?_ fun e he => postRefused_of_lookup hroom hb he hne
    rintro sequence t ⟨-, hsequence, hs⟩
    obtain rfl := hv.sequence_eq hsequence
    have hlength := length_sequenceBytes (hv.sound hc).sequence
    rw [bind_run_of_ok (ofExcept_run_of_ok (ownerKey_of_length hkey hlength))]
    have hcarries := hv.carries hb
    -- The owner key always fits, and so does the state; the message may not, and the number may be full.
    let w : View := ⟨.occupied, some message, v.sequence, publicKey sk (sequenceBytes v.sequence)⟩
    have hw : ({ w with message := none } : View).Sound := ⟨(hv.sound hc).sequence, length_publicKey _ _⟩
    refine (hcarries.writeField_ends hc hs .owner hw (by simp)).bind ?_ fun e he => he.elim
    rintro _ t ⟨u, hcarries, hs⟩
    refine (hcarries.write_ends hc hs hcell
      (fromAligned_field (v := w) hcell)).bind ?_ ?_
    · rintro _ t ⟨u, hfits, hcarries, hs⟩
      refine (hcarries.writeField_ends hc hs .state hw (by simp)).bind ?_ fun e he => he.elim
      rintro _ t ⟨u, hcarries, hs⟩
      refine (hcarries.add_ends hc hs (n := v.sequence) rfl 1).imp ?_ ?_
      · rintro _ t ⟨u, hcounts, hcarries, hs⟩
        refine ⟨v, ⟨hv, hvacant, hcounts, hfits⟩, u, hs, ?_⟩
        convert hcarries using 1
        funext slot
        cases slot <;> rfl
      · rintro e ⟨hfull, he, -⟩
        exact hv.postRefused hvacant (fun hp => absurd hp.counts (by omega)) (.inl he)
    · rintro e ⟨hover, rfl⟩
      refine hv.postRefused hvacant (fun hp => absurd hp.fits (by omega)) ?_
      cases hr : cell.requestBinary with
      | ok _ =>
        rw [Tree.cellRefusal, hr]
        exact .inl (Fault.isReported_of_spelled_nil rfl rfl)
      | error e => exact .inr (by rw [Tree.cellRefusal, hr])
  · rintro e ⟨hoccupied, rfl⟩
    have hn : ∀ v, ¬ Postable cfg cell root v := by
      intro v hv
      rw [← hv.matches_root.state_eq hstate, hv.vacant] at hoccupied
      simp at hoccupied
    exact ⟨hn, .inl (Fault.isReported_of_spelled_nil rfl rfl), fun _ => rfl⟩

end Post

section TakeDown

variable [Memory]

/-- A take-down cannot go through, and fails with a report, which names the reason if it is known at
once. For the owner of the live post it is that the number is full. -/
structure TakeDownRefused (key : Bytes) (root : Tree) (e : Fault) : Prop where
  not_removable : ∀ v, ¬ Removable key root v
  reported : e.IsReported
  full : ∀ v : View, v.Matches root → v.state = .occupied → isOwner key v.owner v.sequence = .ok true →
    e.kind = .structural
  reason : Slot.state.lookup root = .ok Occupancy.vacant.toDatum → e = .assertionFailed emptyReason

theorem takeDownRefused_of_lookup (hroom : cfg.maxCellBytes < 2 ^ 64) (hb : root.Built cfg)
    (hl : slot.lookup root = .error e)
    (hstate : Slot.state.lookup root ≠ .ok Occupancy.vacant.toDatum) : TakeDownRefused key root e where
  not_removable v hv := not_matches_of_lookup hl v hv.matches_root
  reported := isReported_of_lookup hroom hb hl
  full v hv := absurd hv (not_matches_of_lookup hl v)
  reason h := absurd h hstate

theorem View.Matches.takeDownRefused (hv : v.Matches root) (hoccupied : v.state = .occupied)
    (hn : ¬ Removable key root v) (he : e.IsReported)
    (hfull : isOwner key v.owner v.sequence = .ok true → e.kind = .structural) :
    TakeDownRefused key root e where
  not_removable w hw := hv.forall_not hn w hw.matches_root hw
  reported := he
  full w hw _ howner := hfull (hv.unique hw ▸ howner)
  reason h := by
    rw [hv.state_eq h] at hoccupied
    cases hoccupied

theorem takeDownBody_ends (hc : cfg.HoldsSlots) (hroom : cfg.maxCellBytes < 2 ^ 64)
    (hb : root.Built cfg) (hkey : key.length = 32) (hs : Call.At root (.bytes key) s) :
    Ends (takeDownBody cfg secretKeyWitnesses s)
      (fun former t => ∃ v, Removable key root v ∧ former = v.message.getD "" ∧
        ∃ u, Call.At u (.bytes key) t ∧
          Carries cfg root (View.field ⟨.vacant, none, v.sequence + 1, v.owner⟩) u)
      (TakeDownRefused key root) := by
  refine (readState_ends hc hs).bind ?_
    fun e he => takeDownRefused_of_lookup hroom hb he (by simp [he])
  rintro state t ⟨hstate, hs⟩
  refine (assertThat_ends _ emptyReason t).bind ?_ ?_
  · rintro _ _ ⟨hoccupied, rfl⟩
    obtain rfl : state = .occupied := by simpa using hoccupied
    have hne : Slot.state.lookup root ≠ .ok Occupancy.vacant.toDatum := by
      rw [hstate]
      intro h
      cases Occupancy.toDatum_injective (Except.ok.inj h)
    refine (readOwner_ends hc hs).bind ?_ fun e he => takeDownRefused_of_lookup hroom hb he hne
    rintro owner t ⟨-, howner, hs⟩
    refine (secretKey_ends hc hkey hs).bind ?_
      fun e ⟨slot, he⟩ => takeDownRefused_of_lookup hroom hb he hne
    rintro sk t ⟨rfl, ⟨v, hv⟩, hs⟩
    have hoccupied := hv.state_eq hstate
    obtain rfl := hv.owner_eq howner
    refine (readSequence_ends hc hs).bind ?_ fun e he => takeDownRefused_of_lookup hroom hb he hne
    rintro sequence t ⟨-, hsequence, hs⟩
    obtain rfl := hv.sequence_eq hsequence
    have howns : isOwner sk v.owner v.sequence = _ := isOwner_of_length hkey (hv.sound hc).sequence
    rw [bind_run_of_ok (ofExcept_run_of_ok howns)]
    refine (assertThat_ends _ notOwnerReason t).bind ?_ ?_
    · rintro _ _ ⟨hisOwner, rfl⟩
      have hisOwner := of_decide_eq_true hisOwner
      refine (readMessage_ends hc hs).bind ?_ fun e he => takeDownRefused_of_lookup hroom hb he hne
      rintro former t ⟨hmessage, hs⟩
      obtain rfl := hv.message_eq hmessage
      have hcarries := hv.carries hb
      let w : View := ⟨.vacant, none, v.sequence, v.owner⟩
      have hw : w.Sound := ⟨(hv.sound hc).sequence, (hv.sound hc).owner⟩
      refine (hcarries.writeField_ends hc hs .state hw (by simp)).bind ?_ fun e he => he.elim
      rintro _ t ⟨u, hcarries, hs⟩
      refine (hcarries.add_ends hc hs (n := v.sequence) rfl 1).bind ?_ ?_
      · rintro _ t ⟨u, hcounts, hcarries, hs⟩
        refine (hcarries.writeField_ends hc hs .message hw fun _ => rfl).bind ?_ fun e he => he.elim
        rintro _ t ⟨u, hcarries, hs⟩
        refine ⟨v, ⟨hv, hoccupied, hisOwner.1, hcounts, hisOwner.2⟩, rfl, u, hs, ?_⟩
        convert hcarries using 1
        funext slot
        cases slot <;> rfl
      · rintro e ⟨hfull, he, hkind⟩
        exact hv.takeDownRefused hoccupied (fun hr => absurd hr.counts (by omega)) he fun _ => hkind
    · rintro e ⟨hisOwner, rfl⟩
      have hisOwner := of_decide_eq_false hisOwner
      refine hv.takeDownRefused hoccupied (fun hr => hisOwner ⟨hr.posted, hr.owner⟩)
        (Fault.isReported_of_spelled_nil rfl rfl) fun howner => ?_
      exact absurd (of_isOwner_eq_true howner) hisOwner
  · rintro e ⟨hvacant, rfl⟩
    have hn : ∀ v, ¬ Removable key root v := by
      intro v hv
      rw [← hv.matches_root.state_eq hstate, hv.occupied] at hvacant
      simp at hvacant
    refine ⟨hn, Fault.isReported_of_spelled_nil rfl rfl, fun v hv hoccupied _ => ?_, fun _ => rfl⟩
    rw [← hv.state_eq hstate, hoccupied] at hvacant
    simp at hvacant

end TakeDown

section Circuits

variable {c : CallContext} {prices : CostModel}

/-- Nothing but the root and the message can stand in the way of this call. -/
structure Unhindered [Memory] (cfg : Config) (prices : CostModel) (key : Bytes) (c : CallContext) : Prop where
  slots : cfg.HoldsSlots
  room : cfg.maxCellBytes < 2 ^ 64
  unlimited : cfg.costLimit = 0
  payable : prices.Payable
  rates : c.rates = prices.tariff
  built : c.tree.Built cfg
  length : key.length = 32
  secret : c.privateState = .bytes key

theorem Unhindered.at_start [Memory] (h : Unhindered cfg prices key c) (input : AlignedValue) :
    Call.At c.tree (.bytes key) ⟨c.withMeter (.capped cfg.limit?), .start input⟩ := by
  have hcap : cfg.limit? = none := if_pos h.unlimited
  exact ⟨⟨⟨prices, h.payable, h.rates⟩, by rw [hcap]; rfl, rfl, rfl⟩, rfl, h.secret⟩

theorem exists_close (hs : Call.Ready s) (result : Datum) (output : AlignedValue) :
    ∃ res, close result output s = .ok res ∧ res.result = result ∧ res.context = s.context := by
  have hset : s.recorder.setOutput output = .ok { s.recorder with output := some output } := by
    simp [Recorder.setOutput, hs.isOpen, hs.noOutput]
  exact ⟨_, bind_eq_ok.mpr ⟨_, hset, rfl⟩, rfl, rfl⟩

theorem Carries.shown [Memory] {fields : View} {t : Tree} (hc : cfg.HoldsSlots)
    (h : Carries cfg root fields.field t) : View.ofTree cfg t = .ok fields :=
  (ofTree_eq_ok_iff hc).mpr h.lookup

/-- What a circuit comes to that is charged for without a limit. -/
theorem runCircuit_of_ends {α : Type} {input : AlignedValue} {body : Call α}
    {good : α → CallState → Prop} {bad : Fault → Prop}
    (h : Ends (body ⟨c.withMeter (.capped cfg.limit?), .start input⟩) good bad) :
    (∃ x s, runCircuit cfg c input body = .ok (x, s) ∧ good x s) ∨
      ∃ e, runCircuit cfg c input body = .error e ∧ bad e := by
  unfold runCircuit
  cases hr : body ⟨c.withMeter (.capped cfg.limit?), .start input⟩ with
  | ok x s => exact .inl ⟨x, s, rfl, h.of_ok hr⟩
  | error e s => exact .inr ⟨e, rfl, h.of_error hr⟩

variable [Memory]

theorem post_outcome (h : Unhindered cfg prices key c) {cell : AlignedValue}
    (hcell : Slot.message.descriptor.aligned (messageDatum (some message)) = .ok cell) :
    (∃ res v, post cfg secretKeyWitnesses c (.text message) = .ok res ∧ Postable cfg cell c.tree v ∧
      res.result = .null ∧
      Carries cfg c.tree (View.field ⟨.occupied, some message, v.sequence + 1,
        publicKey key (sequenceBytes v.sequence)⟩) res.context.tree) ∨
      ∃ e, post cfg secretKeyWitnesses c (.text message) = .error e ∧
        PostRefused cfg cell c.tree e := by
  obtain ⟨input, hinput⟩ := aligned_text message
  rw [post, hinput, ok_bind]
  rcases runCircuit_of_ends (postBody_ends h.slots h.room h.built h.length (h.at_start input) hcell) with
    ⟨x, s, hx, v, hv, u, hs, hu⟩ | ⟨e, he, hrefused⟩
  · obtain ⟨res, hres, hresult, hcontext⟩ := exists_close hs.ready .null .empty
    rw [hx, ok_bind]
    refine .inl ⟨res, v, hres, hv, hresult, ?_⟩
    rwa [hcontext, hs.tree]
  · rw [he, error_bind]
    exact .inr ⟨e, rfl, hrefused⟩

theorem postable_iff (hc : cfg.HoldsSlots) {cell : AlignedValue} : Postable cfg cell root v ↔
    View.ofTree cfg root = .ok v ∧ v.state = .vacant ∧ v.sequence < 2 ^ 64 - 1 ∧
      cell.binaryLength ≤ cfg.maxCellBytes := by
  rw [ofTree_eq_ok_iff hc]
  constructor
  · rintro ⟨hv, hvacant, hcounts, hfits⟩
    exact ⟨hv, hvacant, by omega, hfits⟩
  · rintro ⟨hv, hvacant, hcounts, hfits⟩
    exact ⟨hv, hvacant, by omega, hfits⟩

theorem exists_post_iff (h : Unhindered cfg prices key c) {cell : AlignedValue}
    (hcell : Slot.message.descriptor.aligned (messageDatum (some message)) = .ok cell) :
    (∃ res, post cfg secretKeyWitnesses c (.text message) = .ok res) ↔
      ∃ v, Postable cfg cell c.tree v := by
  rcases post_outcome h hcell with ⟨res, v, hres, hv, -⟩ | ⟨e, he, hrefused⟩
  · exact ⟨fun _ => ⟨v, hv⟩, fun _ => ⟨res, hres⟩⟩
  · simp [he, hrefused.not_postable]

theorem board_after_post (h : Unhindered cfg prices key c) {res : CircuitResult}
    (hres : post cfg secretKeyWitnesses c (.text message) = .ok res) :
    ∃ v, View.ofTree cfg c.tree = .ok v ∧ res.result = .null ∧
      View.ofTree cfg res.context.tree = .ok ⟨.occupied, some message, v.sequence + 1,
        publicKey key (sequenceBytes v.sequence)⟩ ∧
      ∀ k, (∀ slot : Slot, c.tree.Apart slot.key k) → res.context.tree.index k = c.tree.index k := by
  obtain ⟨cell, hcell, -⟩ := exists_aligned_message (some message)
  rcases post_outcome h hcell with ⟨res', v, hres', hv, hresult, hnew⟩ | ⟨e, he, -⟩
  · cases hres.symm.trans hres'
    exact ⟨v, (ofTree_eq_ok_iff h.slots).mpr hv.matches_root, hresult, hnew.shown h.slots, hnew.others⟩
  · cases hres.symm.trans he

theorem refused_of_post (h : Unhindered cfg prices key c) {cell : AlignedValue}
    (hcell : Slot.message.descriptor.aligned (messageDatum (some message)) = .ok cell)
    (he : post cfg secretKeyWitnesses c (.text message) = .error e) : PostRefused cfg cell c.tree e := by
  rcases post_outcome h hcell with ⟨res, _, hres, -⟩ | ⟨e', he', hrefused⟩
  · cases hres.symm.trans he
  · cases he.symm.trans he'
    exact hrefused

/-- The message is written out before the board is looked at. -/
theorem post_of_encode_error {ws : Witnesses View} {m : Datum} (h : Descriptor.text.encode m = .error e) :
    post cfg ws c m = .error e := by
  rw [post, Descriptor.aligned, h]
  rfl

theorem post_of_ne_text {ws : Witnesses View} {m : Datum} (hm : ∀ text, m ≠ .text text) :
    ∃ e, post cfg ws c m = .error e ∧ ((∃ text, m = .broken text) → e = .unencodable) ∧
      ((∀ text, m ≠ .broken text) → e.IsReported) := by
  by_cases hb : ∃ text, m = .broken text
  · obtain ⟨text, rfl⟩ := hb
    exact ⟨.unencodable, post_of_encode_error rfl, fun _ => rfl, fun h => absurd rfl (h text)⟩
  · obtain ⟨e, henc, he⟩ := encode_text_of_ne hm (not_exists.mp hb)
    exact ⟨e, post_of_encode_error henc, fun h => absurd h hb, fun _ => he⟩

theorem takeDown_outcome (h : Unhindered cfg prices key c) :
    (∃ res v, takeDown cfg secretKeyWitnesses c = .ok res ∧ Removable key c.tree v ∧
      res.result = .text (v.message.getD "") ∧
      Carries cfg c.tree (View.field ⟨.vacant, none, v.sequence + 1, v.owner⟩) res.context.tree) ∨
      ∃ e, takeDown cfg secretKeyWitnesses c = .error e ∧ TakeDownRefused key c.tree e := by
  rw [takeDown]
  rcases runCircuit_of_ends (takeDownBody_ends h.slots h.room h.built h.length (h.at_start .empty)) with
    ⟨x, s, hx, v, hv, rfl, u, hs, hu⟩ | ⟨e, he, hrefused⟩
  · obtain ⟨output, houtput⟩ := aligned_text (v.message.getD "")
    obtain ⟨res, hres, hresult, hcontext⟩ := exists_close hs.ready (.text (v.message.getD "")) output
    rw [hx, ok_bind]
    dsimp only
    rw [houtput, ok_bind]
    refine .inl ⟨res, v, hres, hv, hresult, ?_⟩
    rwa [hcontext, hs.tree]
  · rw [he, error_bind]
    exact .inr ⟨e, rfl, hrefused⟩

theorem removable_iff (hc : cfg.HoldsSlots) : Removable key root v ↔
    View.ofTree cfg root = .ok v ∧ v.state = .occupied ∧ 1 ≤ v.sequence ∧ v.sequence < 2 ^ 64 - 1 ∧
      v.owner = publicKey key (sequenceBytes (v.sequence - 1)) := by
  rw [ofTree_eq_ok_iff hc]
  constructor
  · rintro ⟨hv, hoccupied, hposted, hcounts, howner⟩
    exact ⟨hv, hoccupied, hposted, by omega, howner⟩
  · rintro ⟨hv, hoccupied, hposted, hcounts, howner⟩
    exact ⟨hv, hoccupied, hposted, by omega, howner⟩

theorem exists_takeDown_iff (h : Unhindered cfg prices key c) :
    (∃ res, takeDown cfg secretKeyWitnesses c = .ok res) ↔ ∃ v, Removable key c.tree v := by
  rcases takeDown_outcome h with ⟨res, v, hres, hv, -⟩ | ⟨e, he, hrefused⟩
  · exact ⟨fun _ => ⟨v, hv⟩, fun _ => ⟨res, hres⟩⟩
  · simp [he, hrefused.not_removable]

theorem board_after_takeDown (h : Unhindered cfg prices key c) {res : CircuitResult}
    (hres : takeDown cfg secretKeyWitnesses c = .ok res) :
    ∃ v, View.ofTree cfg c.tree = .ok v ∧ res.result = .text (v.message.getD "") ∧
      View.ofTree cfg res.context.tree = .ok ⟨.vacant, none, v.sequence + 1, v.owner⟩ ∧
      ∀ k, (∀ slot : Slot, c.tree.Apart slot.key k) → res.context.tree.index k = c.tree.index k := by
  rcases takeDown_outcome h with ⟨res', v, hres', hv, hresult, hnew⟩ | ⟨e, he, -⟩
  · cases hres.symm.trans hres'
    exact ⟨v, (ofTree_eq_ok_iff h.slots).mpr hv.matches_root, hresult, hnew.shown h.slots, hnew.others⟩
  · cases hres.symm.trans he

theorem refused_of_takeDown (h : Unhindered cfg prices key c)
    (he : takeDown cfg secretKeyWitnesses c = .error e) : TakeDownRefused key c.tree e := by
  rcases takeDown_outcome h with ⟨res, _, hres, -⟩ | ⟨e', he', hrefused⟩
  · cases hres.symm.trans he
  · cases he.symm.trans he'
    exact hrefused

end Circuits

/-- On a root of any form, a post of a text goes through just if the root is read as a vacant board, its
number can be counted on and the message fits its cell; a take-down, just if the root is read as an occupied
board, its number can be counted on and the secret key owns the live post. The new board is then the one
expected, and all entries of the root but the four slots stay. In every other case the call fails with a
report, which names the reason if the first slot is read as the wrong state, with two exceptions: a post
whose message has no room in memory for its binary form fails with that instead, and one whose message has
no UTF-8 form fails for want of one, whatever the root. -/
theorem circuits_specified [Memory] (env : Environment) (hlimit : (Config.ofEnvironment env).costLimit = 0)
    {prices : CostModel} (hp : prices.Payable) {c : CallContext} (hrates : c.rates = prices.tariff)
    (hroot : c.tree.Built (.ofEnvironment env)) {key : Bytes} (hkey : key.length = 32)
    (hsecret : c.privateState = .bytes key) :
    let cfg := Config.ofEnvironment env
    let ownerAt (n : Nat) : Bytes :=
      sha256 ((Utf8.encode "bboard:pk:").padTo 32 ++ LittleEndian.ofNatPadded 32 n ++ key)
    (∀ message : String, ∃ cell,
      Slot.message.descriptor.aligned (messageDatum (some message)) = .ok cell ∧
      ((∃ res, post cfg secretKeyWitnesses c (.text message) = .ok res) ↔
        ∃ v, View.ofTree cfg c.tree = .ok v ∧ v.state = .vacant ∧ v.sequence < 2 ^ 64 - 1 ∧
          cell.binaryLength ≤ cfg.maxCellBytes) ∧
      (∀ res, post cfg secretKeyWitnesses c (.text message) = .ok res →
        ∃ v, View.ofTree cfg c.tree = .ok v ∧ res.result = .null ∧
          View.ofTree cfg res.context.tree =
            .ok ⟨.occupied, some message, v.sequence + 1, ownerAt v.sequence⟩ ∧
          ∀ k, (∀ slot : Slot, c.tree.Apart slot.key k) → res.context.tree.index k = c.tree.index k) ∧
      ∀ e, post cfg secretKeyWitnesses c (.text message) = .error e →
        (e.IsReported ∨ cell.requestBinary = .error e) ∧
        (Slot.state.lookup c.tree = .ok Occupancy.occupied.toDatum →
          e = .assertionFailed occupiedReason)) ∧
    (∀ message : Datum, (∀ text, message ≠ .text text) →
      ∃ e, post cfg secretKeyWitnesses c message = .error e ∧
        ((∃ text, message = .broken text) → e = .unencodable) ∧
        ((∀ text, message ≠ .broken text) → e.IsReported)) ∧
    ((∃ res, takeDown cfg secretKeyWitnesses c = .ok res) ↔
      ∃ v, View.ofTree cfg c.tree = .ok v ∧ v.state = .occupied ∧ 1 ≤ v.sequence ∧
        v.sequence < 2 ^ 64 - 1 ∧ v.owner = ownerAt (v.sequence - 1)) ∧
    (∀ res, takeDown cfg secretKeyWitnesses c = .ok res →
      ∃ v, View.ofTree cfg c.tree = .ok v ∧ res.result = .text (v.message.getD "") ∧
        View.ofTree cfg res.context.tree = .ok ⟨.vacant, none, v.sequence + 1, v.owner⟩ ∧
        ∀ k, (∀ slot : Slot, c.tree.Apart slot.key k) → res.context.tree.index k = c.tree.index k) ∧
    ∀ e, takeDown cfg secretKeyWitnesses c = .error e →
      e.IsReported ∧
      (Slot.state.lookup c.tree = .ok Occupancy.vacant.toDatum → e = .assertionFailed emptyReason) := by
  intro cfg ownerAt
  have hc : cfg.HoldsSlots := Config.holdsSlots_ofEnvironment env
  have hroom : cfg.maxCellBytes < 2 ^ 64 := Config.maxCellBytes_lt_two_pow env
  have h : Unhindered cfg prices key c := ⟨hc, hroom, hlimit, hp, hrates, hroot, hkey, hsecret⟩
  refine ⟨fun message => ?_, fun message => post_of_ne_text, ?_, fun res => board_after_takeDown h, ?_⟩
  · obtain ⟨cell, hcell, -⟩ := exists_aligned_message (some message)
    refine ⟨cell, hcell, ?_, fun res => board_after_post h, fun e he => ?_⟩
    · exact (exists_post_iff h hcell).trans (exists_congr fun v => postable_iff hc)
    · have hrefused := refused_of_post h hcell he
      exact ⟨hrefused.reported, hrefused.reason⟩
  · exact (exists_takeDown_iff h).trans (exists_congr fun v => removable_iff hc)
  · intro e he
    have hrefused := refused_of_takeDown h he
    exact ⟨hrefused.reported, hrefused.reason⟩

/-- The root is a map with one entry more than a board has, and a count that did not begin at zero. -/
theorem post_on_map :
    let cfg := Config.ofEnvironment fun _ => none
    let key : Bytes := List.replicate 32 7
    let other : AlignedValue := ⟨[⟨.field, [9], by decide⟩]⟩
    let root : Tree := .map [(Slot.state.key, .cell ⟨[⟨.bytes 1, [], by decide⟩]⟩),
      (Slot.message.key, .cell ⟨[⟨.bytes 1, [], by decide⟩, ⟨.compress, [], trivial⟩]⟩),
      (Slot.sequence.key, .cell ⟨[⟨.bytes 8, [5], by decide⟩]⟩),
      (Slot.owner.key, .cell ⟨[⟨.bytes 32, [], by decide⟩]⟩), (other, .null)]
    let c := CallContext.make (.ofTree root) Address.dummy (.bytes key) Tariff.standard
    ∃ res, post cfg secretKeyWitnesses c (.text "hi") = .ok res ∧
      View.ofTree cfg res.context.tree = .ok ⟨.occupied, some "hi", 6,
        sha256 ((Utf8.encode "bboard:pk:").padTo 32 ++ LittleEndian.ofNatPadded 32 5 ++ key)⟩ ∧
      res.context.tree.index other = .ok .null := by
  intro cfg key other root c
  have hcell : ∀ v : AlignedValue, v.binaryLength ≤ 65536 → (Tree.cell v).Built cfg := fun v hv =>
    Tree.built_cell_iff.mpr hv
  have hroot : root.Built cfg := by
    refine Tree.built_map_iff.mpr ⟨by unfold Entries.Sorted; decide +kernel, ?_⟩
    simp only [List.forall_mem_cons, AlignedValue.requestBinary_eq_ok]
    refine ⟨⟨by decide, hcell _ (by decide)⟩, ⟨by decide, hcell _ (by decide +kernel)⟩,
      ⟨by decide, hcell _ (by decide)⟩, ⟨by decide, hcell _ (by decide)⟩, ⟨by decide, .null⟩, by simp⟩
  have hview : View.ofTree cfg root = .ok ⟨.vacant, none, 5, Bytes.zeros 32⟩ := by
    refine (ofTree_eq_ok_iff (Config.holdsSlots_ofEnvironment _)).mpr fun slot => ?_
    cases slot <;> rfl
  obtain ⟨hpost, -⟩ := circuits_specified (fun _ => none) (by decide) CostModel.payable_standard
    (show c.rates = CostModel.standard.tariff from rfl) hroot (show key.length = 32 from rfl) rfl
  obtain ⟨cell, haligned, hiff, hres, -⟩ := hpost "hi"
  obtain ⟨_, hcell, hlength⟩ := exists_aligned_message (some "hi")
  cases hcell.symm.trans haligned
  have hfits : cell.binaryLength ≤ cfg.maxCellBytes := by
    rw [hlength]
    decide +kernel
  obtain ⟨res, h⟩ := hiff.mpr ⟨_, hview, rfl, by decide, hfits⟩
  obtain ⟨v, hv, -, hnew, hothers⟩ := hres res h
  cases hv.symm.trans hview
  refine ⟨res, h, hnew, ?_⟩
  rw [hothers other (by intro slot; cases slot <;> decide)]
  rfl

/-- Half of a surrogate pair has no UTF-8 form, so a fresh board refuses it, and not with a report. -/
theorem broken_post_not_told :
    let half : Text.Broken := ⟨[.half 0], rfl⟩
    ∃ c, initialState (.ofEnvironment fun _ => none) (.bytes Address.dummy) (.bytes (List.replicate 32 7)) =
        .ok c ∧ Shows fresh c.tree ∧
      ∃ e, post (.ofEnvironment fun _ => none) secretKeyWitnesses c (.broken half) = .error e ∧
        ¬ e.IsReported := by
  intro half
  have hc : (Config.ofEnvironment fun _ => none).HoldsBoard := Config.holdsBoard_ofEnvironment (by decide)
  have haddress : Address.ofDatum (.bytes Address.dummy) = .ok Address.dummy := rfl
  obtain ⟨c, hinit, hfresh⟩ := exists_initialState hc haddress (.bytes (List.replicate 32 7))
  exact ⟨c, hinit, hfresh, .unencodable, post_of_encode_error rfl, Fault.not_isReported_of_kind rfl⟩

end AlignedLedger.Board
