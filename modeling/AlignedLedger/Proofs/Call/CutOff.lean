import AlignedLedger.Proofs.Call.Query
import AlignedLedger.Proofs.Machine.CutOff

/-! A limit cuts off a call at its queries. Witnesses do not use anything. -/

namespace AlignedLedger

open Metering

instance : Metering CallState where
  meter s := s.context.gas
  withMeter m s := { s with context := s.context.withMeter m }
  meter_withMeter _ _ := rfl
  withMeter_meter _ := rfl

namespace Call

variable {l : Amount} {cfg : Config} {s : CallState} {p : Program}

/-- What comes of a query once its program has run. -/
def settle (s : CallState) : EStateM.Result Fault Meter Outcome →
    EStateM.Result Fault CallState (Option AlignedValue)
  | .error e gas => .error e (withMeter gas s)
  | .ok o gas => match s.recorder.recordInstrs o.executed with
    | .error e => .error e (withMeter gas s)
    | .ok r => .ok o.lastRead? ⟨{ s.context with gas := gas, current := .ofTree o.tree }, r⟩

theorem query_eq_settle [Memory] : query cfg p s =
    settle s (Machine.run cfg s.context.rates s.context.tree p s.context.gas) := by
  unfold query settle
  cases Machine.run cfg s.context.rates s.context.tree p s.context.gas <;> rfl

/-- However a query ends, its program is all that it uses anything for. -/
theorem meter_query [Memory] : meter (Metering.left (query cfg p s)) =
    Metering.left (Machine.run cfg s.context.rates s.context.tree p s.context.gas) := by
  rw [query_eq_settle]
  cases Machine.run cfg s.context.rates s.context.tree p s.context.gas with
  | error e gas => rfl
  | ok o gas =>
    unfold settle
    dsimp only
    cases s.recorder.recordInstrs o.executed <;> rfl

theorem settle_capped (r : EStateM.Result Fault Meter Outcome) :
    settle (capped l s) (mapState (capped l) r) = mapState (capped l) (settle s r) := by
  cases r with
  | error e gas => rfl
  | ok o gas =>
    unfold settle mapState
    dsimp only
    have hr : (capped l s).recorder = s.recorder := rfl
    rw [hr]
    cases s.recorder.recordInstrs o.executed <;> rfl

theorem query_cutsOff [Memory] : CutsOff l (query cfg p) := by
  have hrun : ∀ s : CallState, CutsOff l (Machine.run cfg s.context.rates s.context.tree p) :=
    fun s => Machine.run_cutsOff cfg s.context.rates s.context.tree p
  refine ⟨fun s hs => ?_, fun s hs hl => ?_⟩
  · rw [used, used, meter_query]
    exact (hrun s).climbs s.context.gas hs
  · have hcut := (hrun s).cut s.context.gas hs hl
    have hu : used (Metering.left (query cfg p s)) =
        used (Metering.left (Machine.run cfg s.context.rates s.context.tree p s.context.gas)) :=
      congrArg Meter.used meter_query
    have hq : query cfg p (capped l s) = settle (capped l s)
        (Machine.run cfg s.context.rates s.context.tree p (capped l s.context.gas)) :=
      query_eq_settle
    refine ⟨fun hw => ?_, fun hb => ?_⟩
    · rw [hu] at hw
      rw [hq, hcut.within hw, settle_capped, query_eq_settle]
    · rw [hu] at hb
      obtain ⟨t, n, ht, hbounds⟩ := hcut.beyond hb
      rw [hq, ht, hu]
      exact ⟨withMeter t s, n, rfl, hbounds⟩

end Call

variable [Memory]

namespace Witnesses

variable {View : Type} (ws : Witnesses View) (name : String) (d : Descriptor) (view : View)

/-- The private state and the value that the witness of this name gives. -/
def asked (c : CallContext) : Except Fault (Datum × Datum) :=
  match ws.lookup name with
  | some (.method method) => checkReturn name (method ⟨view, c.privateState, c.address⟩) d
  | some (.value _) => .error .wrongType
  | none => .error .missingAttribute

/-- What comes of a call once the witness has been asked. -/
def takeOver (s : CallState) : Except Fault (Datum × Datum) → EStateM.Result Fault CallState Datum
  | .error e => .error e s
  | .ok (privateState, value) =>
    let s := { s with context := { s.context with privateState := privateState } }
    match d.aligned value >>= s.recorder.recordPrivate with
    | .error e => .error e s
    | .ok r => .ok value { s with recorder := r }

theorem call_eq_takeOver (s : CallState) :
    ws.call name d view s = takeOver d s (ws.asked name d view s.context) := by
  refine (bind_run_of_ok (get_run s)).trans ?_
  unfold asked
  cases ws.lookup name with
  | none => rfl
  | some entry =>
    cases entry with
    | value given => rfl
    | method method =>
      dsimp only
      rw [bind_run_of_ok (pure_run _ s)]
      cases checkReturn name (method ⟨view, s.context.privateState, s.context.address⟩) d with
      | error e => rfl
      | ok given =>
        obtain ⟨privateState, value⟩ := given
        rw [bind_run_of_ok (ofExcept_ok _ s)]
        dsimp only [takeOver]
        cases d.aligned value with
        | error e => rfl
        | ok a =>
          rw [ok_bind]
          refine (bind_run_of_ok rfl).trans ?_
          refine (bind_run_of_ok (ofExcept_ok a _)).trans ?_
          cases hr : s.recorder.recordPrivate a with
          | ok r => exact bind_run_of_ok ((Call.record_eq_ok (u := ())).mpr ⟨r, hr, rfl⟩)
          | error e =>
            refine bind_run_of_error ?_
            simp only [Call.record, hr]

theorem call_unmetered : Unmetered (ws.call name d view) := by
  intro m s
  have hs : ws.call name d view (withMeter m s) =
      takeOver d (withMeter m s) (ws.asked name d view s.context) :=
    ws.call_eq_takeOver name d view _
  rw [hs, call_eq_takeOver]
  cases ws.asked name d view s.context with
  | error e => rfl
  | ok given =>
    unfold takeOver
    dsimp only [withMeter, CallContext.withMeter]
    cases d.aligned given.2 >>= s.recorder.recordPrivate <;> rfl

end Witnesses

end AlignedLedger
