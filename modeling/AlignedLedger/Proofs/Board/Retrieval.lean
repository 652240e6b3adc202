import AlignedLedger.Proofs.Board.Spending

/-! A message that was posted can be taken down again: a take-down uses less than any post, so no limit that
lets a post through is in its way. What can be in its way is the end of the numbers. -/

namespace AlignedLedger

theorem Tree.Built.withCostLimit [Memory] {cfg : Config} {t : Tree} (h : t.Built cfg) (n : Nat) :
    t.Built (cfg.withCostLimit n) := by
  induction h with
  | null => exact .null
  | cell h => exact .cell h
  | array _ h ih => exact .array ih h
  | map _ h ih => exact .map ih h

namespace Board

open Metering

variable {cfg : Config} {ws : Witnesses View} {c d : CallContext} {message : String} {key : Bytes}
variable {r : CircuitResult} {cell : AlignedValue}

section Gas

variable [Memory]

/-- A post that goes through uses this much, with a limit or without. -/
theorem gas_of_post (hc : cfg.HoldsSlots) (hrates : c.rates = Tariff.standard)
    (hcell : Slot.message.descriptor.aligned (messageDatum (some message)) = .ok cell)
    (h : post cfg ws c (.text message) = .ok r) : r.gas.used = 121 + cell.binaryLength := by
  obtain ⟨input, -, h⟩ := bind_eq_ok.mp h
  obtain ⟨⟨_, s⟩, hx, hclose⟩ := bind_eq_ok.mp h
  have hbody : Uses _ (Call.Priced fun _ => True) (postBody cfg ws (.text message)) _ :=
    postBody_uses hc hcell
  obtain ⟨hused, -⟩ := hbody.used_of_ok ⟨hrates, trivial⟩ (runCircuit_eq_ok.mp hx)
  rw [gas_of_close hclose]
  exact hused.trans (Nat.zero_add _)

theorem gas_of_takeDown (hc : cfg.HoldsSlots) (hrates : c.rates = Tariff.standard)
    (h : takeDown cfg ws c = .ok r) : r.gas.used = 106 := by
  obtain ⟨⟨former, s⟩, hx, h⟩ := bind_eq_ok.mp h
  obtain ⟨output, -, hclose⟩ := bind_eq_ok.mp h
  have hbody : Uses _ (Call.Priced fun _ => True) (takeDownBody cfg ws) _ := takeDownBody_uses hc
  obtain ⟨hused, -⟩ := hbody.used_of_ok ⟨hrates, trivial⟩ (runCircuit_eq_ok.mp hx)
  rw [gas_of_close hclose]
  exact hused

theorem takeDownCost_le (hc : cfg.HoldsSlots) (hrates : c.rates = Tariff.standard) :
    takeDownCost cfg ws c ≤ 106 := by
  have hbody : Uses _ (Call.Priced fun _ => True) (takeDownBody cfg ws) _ := takeDownBody_uses hc
  exact hbody.used_left_le ⟨hrates, trivial⟩

end Gas

section Limits

theorem limit?_eq_some {n : Nat} (h : cfg.limit? = some n) : cfg.costLimit = n ∧ 0 < n := by
  unfold Config.limit? at h
  split at h
  · simp at h
  · next hn =>
    cases h
    exact ⟨rfl, Nat.pos_of_ne_zero hn⟩

theorem limit?_withCostLimit_zero (cfg : Config) : (cfg.withCostLimit 0).limit? = none := rfl

theorem withCostLimit_of_limit?_none (h : cfg.limit? = none) : cfg.withCostLimit 0 = cfg := by
  unfold Config.limit? at h
  split at h
  · next hn =>
    rw [← hn]
    rfl
  · simp at h

variable [Memory]

/-- A post under a limit goes through without one, for an amount within the limit. -/
theorem post_unlimited (h : post cfg ws c (.text message) = .ok r) :
    ∃ free, post (cfg.withCostLimit 0) ws c (.text message) = .ok free ∧
      free.context.tree = r.context.tree ∧ free.gas.used = r.gas.used ∧
      ∀ n, cfg.limit? = some n → r.gas.used ≤ n := by
  cases hlimit : cfg.limit? with
  | none =>
    rw [withCostLimit_of_limit?_none hlimit]
    exact ⟨r, h, rfl, rfl, by simp⟩
  | some n =>
    obtain ⟨rfl, hn⟩ := limit?_eq_some hlimit
    have hcut : CircuitCut _ _ _ (post cfg ws c (.text message)) :=
      post_cut (limit?_withCostLimit_zero cfg) hn c (.text message)
    by_cases hle : postCost (cfg.withCostLimit 0) ws c (.text message) ≤ cfg.costLimit
    · obtain ⟨free, hfree, rfl⟩ := map_eq_ok.mp ((hcut.within hle).symm.trans h)
      refine ⟨free, hfree, rfl, rfl, ?_⟩
      rintro n ⟨⟩
      exact (hcut.used free hfree).trans_le hle
    · obtain ⟨u, k, he, -⟩ := hcut.beyond (Nat.lt_of_not_le hle)
      cases he.symm.trans h

/-- A take-down that can be paid for comes to what it comes to without a limit. -/
theorem takeDown_affordable
    (hle : ∀ n, cfg.limit? = some n → takeDownCost (cfg.withCostLimit 0) ws c ≤ n) :
    ∃ f : CircuitResult → CircuitResult, (∀ r, (f r).result = r.result) ∧
      takeDown cfg ws c = (takeDown (cfg.withCostLimit 0) ws c).map f := by
  cases hlimit : cfg.limit? with
  | none =>
    refine ⟨id, fun _ => rfl, ?_⟩
    rw [withCostLimit_of_limit?_none hlimit]
    cases takeDown cfg ws c <;> rfl
  | some n =>
    obtain ⟨rfl, hn⟩ := limit?_eq_some hlimit
    exact ⟨CircuitResult.capped (.ofNat cfg.costLimit), fun _ => rfl,
      (takeDown_cut (limit?_withCostLimit_zero cfg) hn c).within (hle _ hlimit)⟩

end Limits

section

variable [Memory]

/-- The witness gives its key only if that fills the slot for owners. -/
theorem length_of_secretKey {s s' : CallState} {sk : Bytes} (hk : s.context.privateState = .bytes key)
    (h : secretKey cfg secretKeyWitnesses s = .ok sk s') : key.length = 32 := by
  obtain ⟨_, _, ⟨⟩, h⟩ := bind_run_eq_ok.mp h
  obtain ⟨view, -, h⟩ := bind_ofExcept_run.mp h
  obtain ⟨d, r, hcall, -⟩ := bind_run_eq_ok.mp h
  obtain ⟨method, privateState, a, r, hm, hr, ha, -, -⟩ := Witnesses.exists_of_call hcall
  obtain rfl := WitnessEntry.method.inj (Option.some.inj hm)
  rw [hk] at hr
  dsimp only [Witnesses.checkReturn] at hr
  split at hr
  · next henc =>
    obtain ⟨b, hb, hl, -, -⟩ := Descriptor.encodeBytes_eq_ok henc
    obtain rfl : key = b := Option.some.inj hb
    exact hl
  · split at hr <;> simp at hr

theorem length_of_post (hc : cfg.HoldsSlots) (hk : c.privateState = .bytes key)
    (h : post cfg secretKeyWitnesses c (.text message) = .ok r) : key.length = 32 := by
  obtain ⟨input, -, h⟩ := bind_eq_ok.mp h
  obtain ⟨⟨_, s⟩, hx, -⟩ := bind_eq_ok.mp h
  obtain ⟨state, s₁, hstate, h⟩ := bind_run_eq_ok.mp (runCircuit_eq_ok.mp hx)
  obtain ⟨_, -, h⟩ := bind_ofExcept_run.mp h
  obtain ⟨sk, s₂, hsk, -⟩ := bind_run_eq_ok.mp h
  obtain ⟨d, r, hread, he⟩ := bind_run_eq_ok.mp hstate
  obtain ⟨-, rfl⟩ := expect_eq_ok.mp he
  obtain ⟨-, -, -, -, hprivate⟩ := read_eq_ok hc hread
  exact length_of_secretKey (hprivate.trans hk) hsk

/-- Whatever the root, the key, the message and the settings are: a post that goes through can be undone by
a take-down with the same key and under the same settings, which gives the message back, unless the number
is at its end, where the take-down fails as one that the structure of the ledger does not allow. -/
theorem posted_is_retrievable (env : Environment) {c : CallContext}
    (hrates : c.rates = Tariff.standard) (hroot : c.tree.Built (.ofEnvironment env)) {key : Bytes}
    (hsecret : c.privateState = .bytes key) {message : String} {res : CircuitResult}
    (h : post (.ofEnvironment env) secretKeyWitnesses c (.text message) = .ok res) {d : CallContext}
    (hrates' : d.rates = Tariff.standard) (htree : d.tree = res.context.tree)
    (hsecret' : d.privateState = .bytes key) :
    ∃ v, View.ofTree (.ofEnvironment env) c.tree = .ok v ∧
      (v.sequence + 2 ≤ 2 ^ 64 - 1 →
        ∃ r, takeDown (.ofEnvironment env) secretKeyWitnesses d = .ok r ∧ r.result = .text message ∧
          r.gas.used < res.gas.used) ∧
      (2 ^ 64 - 1 < v.sequence + 2 →
        ∃ e, takeDown (.ofEnvironment env) secretKeyWitnesses d = .error e ∧
          e.IsReported ∧ e.kind = .structural) := by
  let cfg := Config.ofEnvironment env
  have hc : cfg.HoldsSlots := Config.holdsSlots_ofEnvironment env
  have hc' : (cfg.withCostLimit 0).HoldsSlots := ⟨hc.stack, hc.path, hc.cell⟩
  have hroom : (cfg.withCostLimit 0).maxCellBytes < 2 ^ 64 := Config.maxCellBytes_lt_two_pow env
  have hkey := length_of_post hc hsecret h
  obtain ⟨cell, hcell, -⟩ := exists_aligned_message (some message)
  obtain ⟨posted, hposted, hsame, -, hwithin⟩ := post_unlimited h
  have hgas := gas_of_post hc hrates hcell h
  -- Without a limit, the post and the take-down are as specified.
  have hpost : Unhindered (cfg.withCostLimit 0) .standard key c :=
    ⟨hc', hroom, rfl, CostModel.payable_standard, hrates, hroot.withCostLimit 0, hkey, hsecret⟩
  rcases post_outcome hpost hcell with ⟨posted', v, hp, hpostable, -, hnew⟩ | ⟨e, he, -⟩
  · cases hposted.symm.trans hp
    rw [hsame, ← htree] at hnew
    let w : View := ⟨.occupied, some message, v.sequence + 1, publicKey key (sequenceBytes v.sequence)⟩
    have hw : w.Matches d.tree := hnew.lookup
    have hcount := hpostable.counts
    have howner : isOwner key w.owner w.sequence = .ok true := by
      rw [isOwner_of_length hkey hcount]
      simp [w]
    have hcost : takeDownCost (cfg.withCostLimit 0) secretKeyWitnesses d ≤ 106 :=
      takeDownCost_le hc' hrates'
    have hpaid : ∀ n, cfg.limit? = some n →
        takeDownCost (cfg.withCostLimit 0) secretKeyWitnesses d ≤ n := by
      intro n hn
      have hlimit := hwithin n hn
      omega
    obtain ⟨f, hf, hafford⟩ := takeDown_affordable hpaid
    refine ⟨v, (ofTree_eq_ok_iff hc).mpr hpostable.matches_root, ?_⟩
    have htake : Unhindered (cfg.withCostLimit 0) .standard key d :=
      ⟨hc', hroom, rfl, CostModel.payable_standard, hrates', hnew.built, hkey, hsecret'⟩
    rcases takeDown_outcome htake with
      ⟨taken, u, ht, hremovable, hresult, -⟩ | ⟨e, he, hrefused⟩
    · obtain rfl := hw.unique hremovable.matches_root
      rw [ht] at hafford
      have hgas' := gas_of_takeDown hc hrates' hafford
      refine ⟨fun _ => ⟨f taken, hafford, (hf taken).trans hresult, by omega⟩, fun hover => ?_⟩
      have hcounts : v.sequence + 1 + 1 < 2 ^ 64 := hremovable.counts
      omega
    · rw [he] at hafford
      refine ⟨fun hroom => ?_, fun _ => ⟨e, hafford, hrefused.reported, hrefused.full w hw rfl howner⟩⟩
      refine absurd ⟨hw, rfl, Nat.le_add_left 1 _, ?_, rfl⟩ (hrefused.not_removable w)
      change v.sequence + 1 + 1 < 2 ^ 64
      omega
  · cases he.symm.trans hposted

end

/-- A vacant board, as a map. -/
def vacantRoot (number : AlignedValue) : Tree :=
  .map [(Slot.state.key, .cell ⟨[.blank (.bytes 1)]⟩),
    (Slot.message.key, .cell ⟨[.blank (.bytes 1), .blank .compress]⟩),
    (Slot.sequence.key, .cell number), (Slot.owner.key, .cell ⟨[.blank (.bytes 32)]⟩)]

/-- The limit is just what the post uses. One number further on, the take-down cannot count any more. -/
theorem retrieval_of_last_numbers :
    let cfg := Config.ofEnvironment (limitedTo "125")
    let here (s : ChargedState) :=
      CallContext.make s Address.dummy (.bytes (List.replicate 32 7)) Tariff.standard
    let last : AlignedValue := ⟨[⟨.bytes 8, 253 :: List.replicate 7 255, by decide⟩]⟩
    let beyond : AlignedValue := ⟨[⟨.bytes 8, 254 :: List.replicate 7 255, by decide⟩]⟩
    (∃ res r, post cfg secretKeyWitnesses (here (.ofTree (vacantRoot last))) (.text "hi") = .ok res ∧
      takeDown cfg secretKeyWitnesses (here res.context.current) = .ok r ∧ r.result = .text "hi") ∧
    ∃ res e, post cfg secretKeyWitnesses (here (.ofTree (vacantRoot beyond))) (.text "hi") = .ok res ∧
      takeDown cfg secretKeyWitnesses (here res.context.current) = .error e ∧ e.kind = .structural := by
  intro cfg here last beyond
  have hbuilt : ∀ number : AlignedValue, number.binaryLength ≤ 64 → (vacantRoot number).Built cfg := by
    intro number hn
    have hcell : ∀ v : AlignedValue, v.binaryLength ≤ 64 → (Tree.cell v).Built cfg := fun v hv =>
      Tree.built_cell_iff.mpr (hv.trans (by decide +kernel))
    have hkeys : [Slot.state.key, Slot.message.key, Slot.sequence.key, Slot.owner.key].Pairwise
        fun k l => k.order l = .lt := by
      decide +kernel
    refine Tree.built_map_iff.mpr ⟨by simpa [Entries.Sorted] using hkeys, ?_⟩
    simp only [List.forall_mem_cons, AlignedValue.requestBinary_eq_ok]
    exact ⟨⟨by decide, hcell _ (by decide)⟩, ⟨by decide, hcell _ (by decide +kernel)⟩,
      ⟨by decide, hcell _ hn⟩, ⟨by decide, hcell _ (by decide)⟩, by simp⟩
  have hpost : ∀ number : AlignedValue, number = last ∨ number = beyond →
      ∃ res, post cfg secretKeyWitnesses (here (.ofTree (vacantRoot number))) (.text "hi") = .ok res := by
    rintro _ (rfl | rfl)
    · exact exists_ok_of_toBool (by decide +kernel)
    · exact exists_ok_of_toBool (by decide +kernel)
  have hview : ∀ (number : AlignedValue) (n : Nat),
      Slot.sequence.descriptor.fromAligned number = .ok (.int n) →
      View.ofTree cfg (vacantRoot number) = .ok ⟨.vacant, none, n, Bytes.zeros 32⟩ := by
    intro number n hn
    refine (ofTree_eq_ok_iff (Config.holdsSlots_ofEnvironment _)).mpr fun slot => ?_
    cases slot with
    | sequence => exact hn
    | _ => rfl
  constructor
  · obtain ⟨res, h⟩ := hpost last (.inl rfl)
    obtain ⟨v, hv, hroom, -⟩ := posted_is_retrievable (limitedTo "125")
      (c := here (.ofTree (vacantRoot last))) rfl (hbuilt last (by decide)) rfl h
      (d := here res.context.current) rfl rfl rfl
    cases hv.symm.trans (hview last (2 ^ 64 - 3) rfl)
    obtain ⟨r, hr, hresult, -⟩ := hroom (by decide)
    exact ⟨res, r, h, hr, hresult⟩
  · obtain ⟨res, h⟩ := hpost beyond (.inr rfl)
    obtain ⟨v, hv, -, hfull⟩ := posted_is_retrievable (limitedTo "125")
      (c := here (.ofTree (vacantRoot beyond))) rfl (hbuilt beyond (by decide)) rfl h
      (d := here res.context.current) rfl rfl rfl
    cases hv.symm.trans (hview beyond (2 ^ 64 - 2) rfl)
    obtain ⟨e, he, -, hkind⟩ := hfull (by decide)
    exact ⟨res, e, h, he, hkind⟩

end Board

end AlignedLedger
