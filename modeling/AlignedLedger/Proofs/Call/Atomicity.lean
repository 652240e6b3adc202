import AlignedLedger.Proofs.Call.Query
import AlignedLedger.Proofs.Descriptor.Layout

/-! What a part of a call leaves behind, be it that it succeeds or that it fails. A program that fails
leaves nothing but its cost. A witness that fails leaves nothing either, except where its value was all
right and only the recorder would not take it: the private state is the new one by then. -/

namespace AlignedLedger

namespace Call

variable {cfg : Config} {s s' : CallState} {p : Program}

theorem recordInstrs_eq_error {r : Recorder} {is : List Instr} {e : Fault} :
    r.recordInstrs is = .error e ↔ r.finished = true ∧ e = .transcriptFinished := by
  unfold Recorder.recordInstrs Recorder.whileOpen
  cases r.finished <;> simp [eq_comm]

section

variable [Memory]

/-- A program fails in a call if it fails on its own, or else at a recorder that takes in nothing. -/
theorem query_eq_error_iff {e : Fault} :
    query cfg p s = .error e s' ↔
      ∃ m, s' = { s with context := { s.context with gas := m } } ∧
        (Machine.run cfg s.context.rates s.context.tree p s.context.gas = .error e m ∨
          s.recorder.finished = true ∧ e = .transcriptFinished ∧
            ∃ o, Machine.run cfg s.context.rates s.context.tree p s.context.gas = .ok o m) := by
  unfold query
  cases hrun : Machine.run cfg s.context.rates s.context.tree p s.context.gas with
  | error f m =>
    constructor
    · rintro ⟨⟩
      exact ⟨m, rfl, .inl rfl⟩
    · rintro ⟨m', rfl, he | ⟨-, -, o, ho⟩⟩
      · cases he
        rfl
      · cases ho
  | ok o m =>
    dsimp only
    cases hr : s.recorder.recordInstrs o.executed with
    | error f =>
      obtain ⟨hf, rfl⟩ := recordInstrs_eq_error.mp hr
      constructor
      · rintro ⟨⟩
        exact ⟨m, rfl, .inr ⟨hf, rfl, o, rfl⟩⟩
      · rintro ⟨m', rfl, he | ⟨-, rfl, o', ho⟩⟩
        · cases he
        · cases ho
          rfl
    | ok r =>
      have hopen := (recordInstrs_eq_ok.mp hr).1
      constructor
      · intro h
        cases h
      · rintro ⟨m', rfl, he | ⟨hf, -⟩⟩
        · cases he
        · simp [hopen] at hf

theorem run_climbs {rates : Tariff} {root : Tree} {m : Meter} :
    (∀ {o r}, Machine.run cfg rates root p m = .ok o r → m.Climbs r) ∧
      ∀ {e r}, Machine.run cfg rates root p m = .error e r → m.Climbs r := by
  have hm := Machine.run_onlyClimbs cfg rates root p m
  refine ⟨fun h => ?_, fun h => ?_⟩
  · rwa [h] at hm
  · rwa [h] at hm

/-- A program in a call changes all that it has to change or nothing but what was used. It succeeds if it
does so on its own and the recorder is open; the tree it ends with is installed then, charged anew, and
its instructions follow those on record. The meter never passes its limit. -/
theorem query_atomic (cfg : Config) (p : Program) (s : CallState) :
    (∀ e s', query cfg p s = .error e s' →
      ∃ m, s.context.gas.Climbs m ∧ s' = { s with context := { s.context with gas := m } }) ∧
    (∀ v s', query cfg p s = .ok v s' →
      ∃ o m, Machine.run cfg s.context.rates s.context.tree p s.context.gas = .ok o m ∧
        s.context.gas.Climbs m ∧ m.used = s.context.gas.used + o.cost ∧ v = o.lastRead? ∧
        s' = { context := { s.context with current := ⟨o.tree, o.tree.storageSize⟩, gas := m },
               recorder := { s.recorder with
                 publicTranscript := s.recorder.publicTranscript ++ o.executed } }) ∧
    ((∃ v s', query cfg p s = .ok v s') ↔
      s.recorder.finished = false ∧
        ∃ o m, Machine.run cfg s.context.rates s.context.tree p s.context.gas = .ok o m) := by
  refine ⟨?fails, ?succeeds, ?when⟩
  case fails =>
    intro e s' h
    obtain ⟨m, hs, hrun | ⟨-, -, o, hrun⟩⟩ := query_eq_error_iff.mp h
    · exact ⟨m, run_climbs.2 hrun, hs⟩
    · exact ⟨m, run_climbs.1 hrun, hs⟩
  case succeeds =>
    intro v s' h
    obtain ⟨o, m, r, hrun, hr, hv, hs⟩ := query_eq_ok.mp h
    obtain ⟨-, rfl⟩ := recordInstrs_eq_ok.mp hr
    have hused : m.used = s.context.gas.used + o.cost := by
      rw [(Machine.run_unlimited hrun).1]
    exact ⟨o, m, hrun, run_climbs.1 hrun, hused, hv, hs⟩
  case when =>
    constructor
    · rintro ⟨v, s', h⟩
      obtain ⟨o, m, r, hrun, hr, -, -⟩ := query_eq_ok.mp h
      exact ⟨(recordInstrs_eq_ok.mp hr).1, o, m, hrun⟩
    · rintro ⟨hopen, o, m, hrun⟩
      exact ⟨_, _, query_eq_ok.mpr ⟨o, m, _, hrun, recordInstrs_eq_ok.mpr ⟨hopen, rfl⟩, rfl, rfl⟩⟩

end

/-- A call on an array with one entry, on its way to a recorder that is open or finished. -/
def onArray (finished : Bool) (limit : Option Amount) : CallState where
  context := (CallContext.make (.ofTree (.array [.null])) Address.dummy .null Tariff.standard).withMeter
    (.start limit)
  recorder := { Recorder.start .empty with finished := finished }

/-- One program stops halfway through putting an entry back, where the limit is reached; another one
runs through to a recorder that is finished, and the same one succeeds where the recorder is open. -/
theorem query_onArray :
    let cfg := Config.ofEnvironment fun _ => none
    let zero : AlignedValue := ⟨[⟨.bytes 1, [], by decide⟩]⟩
    let one : AlignedValue := ⟨[⟨.bytes 1, [1], by decide⟩]⟩
    let put : Program := .ofInstrs [.idx false true [.literal zero], .push true (.cell one), .ins true 1]
    let read : Program := .ofInstrs [.push false (.cell one), .popeq false none]
    (∃ e m, (onArray false (some (.ofNat 14))).context.gas.Climbs m ∧ m.used ≤ 14 ∧
      query cfg put (onArray false (some (.ofNat 14))) =
        .error e { onArray false (some (.ofNat 14)) with
          context := { (onArray false (some (.ofNat 14))).context with gas := m } }) ∧
    (∃ e m, query cfg read (onArray true none) = .error e { onArray true none with
      context := { (onArray true none).context with gas := m } }) ∧
    ∃ v s', query cfg read (onArray false none) = .ok v s' ∧ s'.context.tree = .array [.null] := by
  intro cfg zero one put read
  refine ⟨?limit, ?finished, ?isOpen⟩
  case limit =>
    obtain ⟨e, s', h⟩ : ∃ e s', query cfg put (onArray false (some (.ofNat 14))) = .error e s' :=
      ⟨_, _, rfl⟩
    obtain ⟨m, hm, hs⟩ := (query_atomic cfg put _).1 e s' h
    refine ⟨e, m, hm, ?_, hs ▸ h⟩
    rcases hm.within _ rfl with hu | hu
    · exact hu ▸ Nat.zero_le _
    · exact hu
  case finished =>
    obtain ⟨e, s', h⟩ : ∃ e s', query cfg read (onArray true none) = .error e s' := ⟨_, _, rfl⟩
    obtain ⟨m, -, hs⟩ := (query_atomic cfg read _).1 e s' h
    exact ⟨e, m, hs ▸ h⟩
  case isOpen =>
    obtain ⟨v, s', h⟩ := (query_atomic cfg read (onArray false none)).2.2.mpr ⟨rfl, _, _, rfl⟩
    obtain ⟨o, m, hrun, -, -, -, rfl⟩ := (query_atomic cfg read _).2.1 v s' h
    cases hrun
    exact ⟨v, _, h, rfl⟩

end Call

namespace Witnesses

variable {View : Type} {ws : Witnesses View} {name : String} {d : Descriptor} {view : View}
variable {s s' : CallState} {privateState value : Datum}

/-- The witness of this name gives a private state and a value, and the value fits the descriptor. -/
def Gives [Memory] (ws : Witnesses View) (name : String) (d : Descriptor) (view : View) (c : CallContext)
    (privateState value : Datum) : Prop :=
  ∃ method, ws.lookup name = some (.method method) ∧
    checkReturn name (method ⟨view, c.privateState, c.address⟩) d = .ok (privateState, value)

theorem Gives.unique [Memory] {privateState' value' : Datum}
    (h : ws.Gives name d view s.context privateState value)
    (h' : ws.Gives name d view s.context privateState' value') :
    privateState = privateState' ∧ value = value' := by
  obtain ⟨method, hm, hr⟩ := h
  obtain ⟨method', hm', hr'⟩ := h'
  cases hm.symm.trans hm'
  exact Prod.mk.inj (Except.ok.inj (hr.symm.trans hr'))

end Witnesses

end AlignedLedger
