import AlignedLedger.Proofs.Board.Circuits
import AlignedLedger.Proofs.Call.CutOff
import AlignedLedger.Proofs.Fault
import AlignedLedger.Proofs.Machine.CostLimit

/-! The circuits of a board under a limit of the environment: each gives what it gives without one if its
queries stay within the limit, and ends at the charge that would pass it if they do not. -/

namespace AlignedLedger

open Metering

/-- A number of this name in the environment sets the cost limit and nothing else. Numbers that are out of
bounds stand for the largest limit there is. -/
theorem Config.ofEnvironment_limited {free limited : Environment} {n : Nat}
    (hsame : ∀ name, name ≠ Setting.costLimit.name → limited name = free name)
    (hn : (limited Setting.costLimit.name).bind Text.literal? = some (n : Int)) :
    ofEnvironment limited =
      (ofEnvironment free).withCostLimit (min n Setting.costLimit.most) := by
  have hlimit : Setting.costLimit.read limited = min n Setting.costLimit.most := by
    unfold Setting.read
    rw [hn]
    have hleast : Setting.costLimit.least = 0 := rfl
    dsimp only
    rw [hleast, if_neg (by omega)]
    by_cases hle : n ≤ Setting.costLimit.most
    · rw [if_neg (by omega), Nat.min_eq_left hle, Int.toNat_natCast]
    · rw [if_pos (by omega), Nat.min_eq_right (by omega)]
  have hother : ∀ s : Setting, s.name ≠ Setting.costLimit.name → s.read limited = s.read free :=
    fun s hs => by rw [Setting.read, Setting.read, hsame _ hs]
  simp only [ofEnvironment, withCostLimit, hlimit]
  rw [hother .maxStackDepth (by decide), hother .maxPathLength (by decide),
    hother .maxArrayLength (by decide), hother .maxCellBytes (by decide),
    hsame "LOG_LEVEL" (by decide)]

/-- A charge that is refused for its size is told as such, if the numbers of the message can be written. -/
theorem Fault.told_costLimitExceeded {u : Nat} {l n : Amount} (hu : Text.isWritable u = true)
    (hl : Text.isWritable l.value = true) (hn : Text.isWritable n.value = true) :
    (Fault.costLimitExceeded u l n).told = .costLimitExceeded u l n := by
  refine if_pos ?_
  simp only [spelled, List.all_cons, List.all_nil, Bool.and_true, Bool.and_eq_true]
  exact ⟨hu, hl, hn⟩

namespace Board

variable {cfg : Config} {ws : Witnesses View} {l : Amount} {n : Nat} {α : Type}

section Bodies

theorem expect_cutsOff (x : Option α) : CutsOff l (expect x) := by
  cases x with
  | none => exact .throw _
  | some a => exact .pure a

variable [Memory]

theorem read_cutsOff (slot : Slot) (cached : Bool) : CutsOff l (slot.read cfg cached) := by
  refine .bind Call.query_cutsOff fun v => ?_
  cases v with
  | none => exact .throw _
  | some v => exact .ofExcept _

theorem write_cutsOff (slot : Slot) (value : Datum) : CutsOff l (slot.write cfg value) :=
  .bind (.ofExcept _) fun _ => .bind Call.query_cutsOff fun _ => .pure ()

theorem add_cutsOff (slot : Slot) (amount : Nat) : CutsOff l (slot.add cfg amount) :=
  .bind Call.query_cutsOff fun _ => .pure ()

theorem readField_cutsOff {slot : Slot} {cached : Bool} {ofDatum? : Datum → Option α} :
    CutsOff l (slot.read cfg cached >>= fun d => expect (ofDatum? d)) :=
  (read_cutsOff slot cached).bind fun _ => expect_cutsOff _

/-- The view that the witness is shown is read on a meter of its own. -/
theorem secretKey_cutsOff : CutsOff l (secretKey cfg ws) := by
  refine .get_bind (fun _ => rfl) fun s => .bind (.ofExcept _) fun view => ?_
  exact .bind (ws.call_unmetered witnessName Slot.owner.descriptor view).cutsOff fun d => expect_cutsOff _

theorem postBody_cutsOff (message : Datum) : CutsOff l (postBody cfg ws message) := by
  refine readField_cutsOff.bind fun state => .bind (.ofExcept _) fun _ => ?_
  refine secretKey_cutsOff.bind fun sk => readField_cutsOff.bind fun sequence => ?_
  refine .bind (.ofExcept _) fun owner => (write_cutsOff _ _).bind fun _ => ?_
  exact (write_cutsOff _ _).bind fun _ => (write_cutsOff _ _).bind fun _ => add_cutsOff _ _

theorem takeDownBody_cutsOff : CutsOff l (takeDownBody cfg ws) := by
  refine readField_cutsOff.bind fun state => .bind (.ofExcept _) fun _ => ?_
  refine readField_cutsOff.bind fun owner => secretKey_cutsOff.bind fun sk => ?_
  refine readField_cutsOff.bind fun sequence => .bind (.ofExcept _) fun owns => ?_
  refine .bind (.ofExcept _) fun _ => readField_cutsOff.bind fun former => ?_
  refine (write_cutsOff _ _).bind fun _ => ?_
  exact (add_cutsOff _ _).bind fun _ => (write_cutsOff _ _).bind fun _ => .pure _

end Bodies

section Settings

variable [Memory]

theorem query_withCostLimit (p : Program) :
    Call.query (cfg.withCostLimit n) p = Call.query cfg p := by
  funext s
  simp only [Call.query, Machine.run_withCostLimit]

theorem read_withCostLimit (slot : Slot) (cached : Bool) :
    slot.read (cfg.withCostLimit n) cached = slot.read cfg cached := by
  simp only [Slot.read, query_withCostLimit]

theorem write_withCostLimit (slot : Slot) (value : Datum) :
    slot.write (cfg.withCostLimit n) value = slot.write cfg value := by
  have hp : slot.writeProgram (cfg.withCostLimit n) value = slot.writeProgram cfg value := rfl
  simp only [Slot.write, query_withCostLimit, hp]

theorem add_withCostLimit (slot : Slot) (amount : Nat) :
    slot.add (cfg.withCostLimit n) amount = slot.add cfg amount := by
  simp only [Slot.add, query_withCostLimit]

theorem secretKey_withCostLimit : secretKey (cfg.withCostLimit n) ws = secretKey cfg ws := by
  have hview : ∀ t, View.ofTree (cfg.withCostLimit n) t = View.ofTree cfg t := fun t => by
    simp only [View.ofTree, View.read, readState, readMessage, readSequence, readOwner,
      read_withCostLimit]
  simp only [secretKey, hview]

theorem postBody_withCostLimit (message : Datum) :
    postBody (cfg.withCostLimit n) ws message = postBody cfg ws message := by
  simp only [postBody, readState, readSequence, read_withCostLimit, secretKey_withCostLimit,
    write_withCostLimit, add_withCostLimit]

theorem takeDownBody_withCostLimit : takeDownBody (cfg.withCostLimit n) ws = takeDownBody cfg ws := by
  simp only [takeDownBody, readState, readSequence, readOwner, readMessage, read_withCostLimit,
    secretKey_withCostLimit, write_withCostLimit, add_withCostLimit]

end Settings

section Circuits

/-- What the queries of a circuit use where there is no limit, however it ends. -/
def spent (c : CallContext) (input : AlignedValue) (body : Call α) : Nat :=
  used (Metering.left (body ⟨c.withMeter (.start none), .start input⟩))

/-- A message that does not fit is refused before anything is used. -/
def postCost [Memory] (cfg : Config) (ws : Witnesses View) (c : CallContext) (message : Datum) : Nat :=
  match Descriptor.text.aligned message with
  | .ok input => spent c input (postBody cfg ws message)
  | .error _ => 0

def takeDownCost [Memory] (cfg : Config) (ws : Witnesses View) (c : CallContext) : Nat :=
  spent c .empty (takeDownBody cfg ws)

/-- The same result with meters under a limit. -/
def CircuitResult.capped (l : Amount) (r : CircuitResult) : CircuitResult :=
  { r with
    context := r.context.withMeter ⟨some l, r.context.gas.used⟩
    gas := ⟨some l, r.gas.used⟩ }

/-- What a limit makes of a circuit that uses so much and comes to the first end without one. -/
structure CircuitCut (l : Amount) (cost : Nat) (free limited : Except Fault CircuitResult) : Prop where
  used : ∀ r, free = .ok r → r.gas.used = cost
  within : cost ≤ l.value → limited = free.map (CircuitResult.capped l)
  beyond : l.value < cost → ∃ u n, limited = .error (.costLimitExceeded u l n) ∧
    u ≤ l.value ∧ l.value < u + n.value ∧ u + n.value ≤ cost

theorem close_capped (result : Datum) (output : AlignedValue) (s : CallState) :
    close result output (capped l s) = (close result output s).map (CircuitResult.capped l) := by
  have hr : (capped l s).recorder = s.recorder := rfl
  unfold close
  rw [hr]
  cases s.recorder.setOutput output <;> rfl

/-- A circuit is cut off where its body is, if what is made of the result has no part in the meter. -/
theorem runCircuit_eq_attempt {cfg : Config} {c : CallContext} {input : AlignedValue} {body : Call α} :
    runCircuit cfg c input body = attempt body ⟨c.withMeter (.capped cfg.limit?), .start input⟩ := by
  unfold runCircuit attempt
  split <;> simp_all

theorem circuit_cut {limited : Config} {c : CallContext} {input : AlignedValue} {body : Call α}
    {finish : α → CallState → Except Fault CircuitResult} (hfree : cfg.limit? = none)
    (hlimited : limited.limit? = some n) (hbody : CutsOff (.ofNat n) body)
    (hgas : ∀ x s r, finish x s = .ok r → r.gas = s.context.gas)
    (hfinish : ∀ x s, finish x (capped (.ofNat n) s) =
      (finish x s).map (CircuitResult.capped (.ofNat n))) :
    CircuitCut (.ofNat n) (spent c input body)
      (runCircuit cfg c input body >>= fun p => finish p.1 p.2)
      (runCircuit limited c input body >>= fun p => finish p.1 p.2) := by
  let start : CallState := ⟨c.withMeter (.start none), .start input⟩
  have hcut : Cut (.ofNat n) (body start) (body (capped (.ofNat n) start)) :=
    hbody.cut start rfl (Nat.zero_le _)
  have hs : spent c input body = Metering.used (Metering.left (body start)) := rfl
  rw [hs]
  rw [runCircuit_eq_attempt, runCircuit_eq_attempt, hfree, hlimited]
  change CircuitCut _ _ (attempt body start >>= _) (attempt body (capped (.ofNat n) start) >>= _)
  refine ⟨fun r hr => ?_, fun hw => ?_, fun hb => ?_⟩
  · obtain ⟨⟨x, s⟩, hx, hr⟩ := bind_eq_ok.mp hr
    rw [attempt_eq_ok.mp hx, hgas x s r hr]
    rfl
  · rw [attempt, attempt, hcut.within hw]
    cases body start with
    | error e s => rfl
    | ok x s => exact hfinish x s
  · obtain ⟨t, k, ht, -, hbounds⟩ := hcut.beyond hb
    rw [attempt, ht]
    exact ⟨_, k, rfl, hbounds⟩

theorem limit?_withCostLimit (hn : 0 < n) : (cfg.withCostLimit n).limit? = some n :=
  if_neg (Nat.ne_of_gt hn)

theorem gas_of_close {result : Datum} {output : AlignedValue} {s : CallState} {r : CircuitResult}
    (h : close result output s = .ok r) : r.gas = s.context.gas := by
  obtain ⟨-, -, -, hgas⟩ := close_eq_ok h
  exact hgas

theorem post_cut [Memory] (hfree : cfg.limit? = none) (hn : 0 < n) (c : CallContext) (message : Datum) :
    CircuitCut (.ofNat n) (postCost cfg ws c message) (post cfg ws c message)
      (post (cfg.withCostLimit n) ws c message) := by
  unfold post postCost
  rw [postBody_withCostLimit]
  cases Descriptor.text.aligned message with
  | error e =>
    refine ⟨?_, fun _ => rfl, fun hb => absurd hb (Nat.not_lt_zero _)⟩
    rintro r ⟨⟩
  | ok input =>
    let finish : Unit → CallState → Except Fault CircuitResult := fun _ s => close .null .empty s
    have hgas : ∀ x s r, finish x s = .ok r → r.gas = s.context.gas := fun _ s r => gas_of_close
    have hfinish : ∀ x s, finish x (capped (.ofNat n) s) =
        (finish x s).map (CircuitResult.capped (.ofNat n)) := fun _ => close_capped .null .empty
    exact circuit_cut hfree (limit?_withCostLimit hn) (postBody_cutsOff message) hgas hfinish

theorem takeDown_cut [Memory] (hfree : cfg.limit? = none) (hn : 0 < n) (c : CallContext) :
    CircuitCut (.ofNat n) (takeDownCost cfg ws c) (takeDown cfg ws c)
      (takeDown (cfg.withCostLimit n) ws c) := by
  unfold takeDown takeDownCost
  rw [takeDownBody_withCostLimit]
  let finish : String → CallState → Except Fault CircuitResult := fun former s => do
    let output ← Descriptor.text.aligned (.text former)
    close (.text former) output s
  have hgas : ∀ x s r, finish x s = .ok r → r.gas = s.context.gas := by
    intro x s r h
    obtain ⟨output, -, hc⟩ := bind_eq_ok.mp h
    exact gas_of_close hc
  have hfinish : ∀ x s, finish x (capped (.ofNat n) s) =
      (finish x s).map (CircuitResult.capped (.ofNat n)) := by
    intro x s
    change (Descriptor.text.aligned (.text x) >>= _) = (Descriptor.text.aligned (.text x) >>= _).map _
    cases Descriptor.text.aligned (.text x) with
    | error e => rfl
    | ok output => exact close_capped (.text x) output s
  exact circuit_cut hfree (limit?_withCostLimit hn) takeDownBody_cutsOff hgas hfinish

/-- A limit only cuts off. Under a limit a program that would use no more than that comes to the same
end, for the same amount, and any other is stopped at the charge that would pass the limit. A limit that
the environment sets does the same to the circuits of a board, whose programs all use one meter; if it is
above the largest there is, that one holds. The charge that is refused is told, as long as the three numbers
of the message can be written. -/
theorem limit_only_cuts_off [Memory] :
    (∀ (cfg : Config) (rates : Tariff) (root : Tree) (p : Program) (l : Amount),
      Cut l (Machine.run cfg rates root p (.start none)) (Machine.run cfg rates root p (.start (some l)))) ∧
    (∀ (free limited : Environment) (n : Nat), (Config.ofEnvironment free).limit? = none →
      (∀ name, name ≠ Setting.costLimit.name → limited name = free name) →
      (limited Setting.costLimit.name).bind Text.literal? = some (n : Int) → 0 < n →
      ∀ (ws : Witnesses View) (c : CallContext),
        let cfg := Config.ofEnvironment free
        let l := Amount.ofNat (min n Setting.costLimit.most)
        (∀ message, CircuitCut l (postCost cfg ws c message) (post cfg ws c message)
          (post (Config.ofEnvironment limited) ws c message)) ∧
        CircuitCut l (takeDownCost cfg ws c) (takeDown cfg ws c)
          (takeDown (Config.ofEnvironment limited) ws c)) ∧
    ∀ (u : Nat) (l n : Amount), Text.isWritable u = true → Text.isWritable l.value = true →
      Text.isWritable n.value = true → (Fault.costLimitExceeded u l n).told = .costLimitExceeded u l n := by
  refine ⟨fun cfg rates root p l => ?_, fun free limited n hfree hsame hn hpos ws c => ?_, ?_⟩
  · exact (Machine.run_cutsOff cfg rates root p).cut (.start none) rfl (Nat.zero_le _)
  · have hlimit : 0 < min n Setting.costLimit.most := by
      have hmost : 0 < Setting.costLimit.most := by decide
      omega
    rw [Config.ofEnvironment_limited hsame hn]
    exact ⟨post_cut hfree hlimit c, takeDown_cut hfree hlimit c⟩
  · exact fun _ _ _ => Fault.told_costLimitExceeded

/-- An environment that sets nothing but the cost limit. -/
def limitedTo (text : String) : Environment :=
  fun name => if name = Setting.costLimit.name then some text else none

theorem limitedTo_of_ne (text name : String) (h : name ≠ Setting.costLimit.name) :
    limitedTo text name = none :=
  if_neg h

theorem limit_on_post :
    let cfg := Config.ofEnvironment fun _ => none
    ∃ c r u n, initialState cfg (.bytes (Bytes.zeros 32)) (.bytes (Bytes.zeros 32)) = .ok c ∧
      post cfg secretKeyWitnesses c (.text "hi") = .ok r ∧
      post (Config.ofEnvironment (limitedTo "1000")) secretKeyWitnesses c (.text "hi") =
        .ok (r.capped (.ofNat 1000)) ∧
      post (Config.ofEnvironment (limitedTo "100")) secretKeyWitnesses c (.text "hi") =
        .error (.costLimitExceeded u (.ofNat 100) n) ∧ u ≤ 100 ∧ 100 < u + n.value ∧
      (Fault.costLimitExceeded u (.ofNat 100) n).told.kind = .costLimit := by
  intro cfg
  have hcalls : ((initialState cfg (.bytes (Bytes.zeros 32)) (.bytes (Bytes.zeros 32)) >>= fun c =>
      post cfg secretKeyWitnesses c (.text "hi") >>= fun r =>
        if 100 < r.gas.used ∧ r.gas.used ≤ 1000 then pure () else throw .badValue)).toBool = true := by
    decide +kernel
  obtain ⟨_, h⟩ := exists_ok_of_toBool hcalls
  obtain ⟨c, hc, h⟩ := bind_eq_ok.mp h
  obtain ⟨r, hr, h⟩ := bind_eq_ok.mp h
  by_cases hused : 100 < r.gas.used ∧ r.gas.used ≤ 1000
  · obtain ⟨-, hboard, htold⟩ := limit_only_cuts_off
    have hwide := (hboard (fun _ => none) (limitedTo "1000") 1000 (by decide +kernel)
      (limitedTo_of_ne "1000") (by decide +kernel) (by decide) secretKeyWitnesses c).1 (.text "hi")
    have htight := (hboard (fun _ => none) (limitedTo "100") 100 (by decide +kernel)
      (limitedTo_of_ne "100") (by decide +kernel) (by decide) secretKeyWitnesses c).1 (.text "hi")
    have hcost := hwide.used r hr
    obtain ⟨u, n, he, hu, hl, hn⟩ := htight.beyond (hcost ▸ hused.1)
    have hw := hwide.within (hcost ▸ hused.2)
    have hmin : min 1000 Setting.costLimit.most = 1000 := by decide
    have hmin' : min 100 Setting.costLimit.most = 100 := by decide
    rw [hmin, hr] at hw
    rw [hmin'] at he hu hl
    refine ⟨c, r, u, n, hc, hr, hw, he, hu, hl, ?_⟩
    have hwritable : ∀ k : Nat, k ≤ 1000 → Text.isWritable k = true := fun k hk =>
      Text.isWritable_of_lt (by omega)
    rw [htold u (.ofNat 100) n (hwritable u (by omega)) (hwritable (Amount.ofNat 100).value (by simp))
      (hwritable n.value (by omega))]
    rfl
  · rw [if_neg hused] at h
    cases h

/-- A limit above the largest there is does not hold as it stands. -/
theorem limit_above_largest :
    ¬ ∀ (limited : Environment) (n : Nat),
      (∀ name, name ≠ Setting.costLimit.name → limited name = none) →
      (limited Setting.costLimit.name).bind Text.literal? = some (n : Int) → 0 < n →
      ∀ (ws : Witnesses View) (c : CallContext) (message : Datum) (r : CircuitResult),
        post (Config.ofEnvironment fun _ => none) ws c message = .ok r → r.gas.used ≤ n →
          post (Config.ofEnvironment limited) ws c message = .ok (r.capped (.ofNat n)) := by
  intro h
  let cfg := Config.ofEnvironment fun _ => none
  let rates : Tariff := { Tariff.standard with dup := .int (2 ^ 62 + 1) }
  let limited := limitedTo "18446744073709551616"
  have hcalls : ((initialState cfg (.bytes (Bytes.zeros 32)) (.bytes (Bytes.zeros 32)) >>= fun c =>
      post cfg secretKeyWitnesses { c with rates := rates } (.text "hi") >>= fun r =>
        if r.gas.used ≤ 2 ^ 64 ∧
            (post (Config.ofEnvironment limited) secretKeyWitnesses { c with rates := rates }
              (.text "hi")).toBool = false then
          pure () else throw .badValue)).toBool = true := by
    decide +kernel
  obtain ⟨_, hok⟩ := exists_ok_of_toBool hcalls
  obtain ⟨c, -, hok⟩ := bind_eq_ok.mp hok
  obtain ⟨r, hr, hok⟩ := bind_eq_ok.mp hok
  by_cases hb : r.gas.used ≤ 2 ^ 64 ∧
      (post (Config.ofEnvironment limited) secretKeyWitnesses { c with rates := rates }
        (.text "hi")).toBool = false
  · have hlimited := h limited (2 ^ 64) (limitedTo_of_ne _) (by decide +kernel) (by decide)
      secretKeyWitnesses { c with rates := rates } (.text "hi") r hr hb.1
    rw [hlimited] at hb
    cases hb.2
  · rw [if_neg hb] at hok
    cases hok

end Circuits

end Board

end AlignedLedger
