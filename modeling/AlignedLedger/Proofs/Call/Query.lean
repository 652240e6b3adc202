import AlignedLedger.Call.Witness
import AlignedLedger.Proofs.Machine.Unmetered
import AlignedLedger.Proofs.Outcome

/-! What the parts of a call do when they succeed: programs that run on the ledger, and witnesses. -/

namespace AlignedLedger

namespace Call

variable {cfg : Config} {s s' : CallState} {p : Program}

theorem record_eq_ok {change : Recorder → Except Fault Recorder} {u : Unit} :
    record change s = .ok u s' ↔ ∃ r, change s.recorder = .ok r ∧ s' = ⟨s.context, r⟩ := by
  unfold record
  cases change s.recorder with
  | ok r => simp [eq_comm]
  | error e => simp

/-- A program that succeeds installs its tree and puts its instructions on record. -/
theorem query_eq_ok [Memory] {v : Option AlignedValue} :
    query cfg p s = .ok v s' ↔
      ∃ o gas r, Machine.run cfg s.context.rates s.context.tree p s.context.gas = .ok o gas ∧
        s.recorder.recordInstrs o.executed = .ok r ∧ v = o.lastRead? ∧
        s' = ⟨{ s.context with gas := gas, current := .ofTree o.tree }, r⟩ := by
  unfold query
  cases Machine.run cfg s.context.rates s.context.tree p s.context.gas with
  | ok o gas =>
    dsimp only
    cases hr : s.recorder.recordInstrs o.executed with
    | ok r =>
      constructor
      · rintro ⟨⟩
        exact ⟨o, gas, r, rfl, hr, rfl, rfl⟩
      · rintro ⟨_, _, _, ⟨⟩, h, rfl, rfl⟩
        cases hr.symm.trans h
        rfl
    | error e =>
      constructor
      · rintro ⟨⟩
      · rintro ⟨_, _, _, ⟨⟩, h, -⟩
        cases hr.symm.trans h
  | error e gas => simp

/-- A program that fails changes no more than what was used. -/
theorem query_eq_error [Memory] {e : Fault} (h : query cfg p s = .error e s') :
    ∃ gas, s' = { s with context := { s.context with gas := gas } } := by
  unfold query at h
  split at h
  · cases h
    exact ⟨_, rfl⟩
  · dsimp only at h
    split at h
    · cases h
      exact ⟨_, rfl⟩
    · simp at h

theorem whileOpen_eq_ok {r r' : Recorder} {change : Recorder → Recorder} :
    r.whileOpen change = .ok r' ↔ r.finished = false ∧ r' = change r := by
  unfold Recorder.whileOpen
  cases r.finished <;> simp [eq_comm]

theorem recordInstrs_eq_ok {r r' : Recorder} {is : List Instr} :
    r.recordInstrs is = .ok r' ↔
      r.finished = false ∧ r' = { r with publicTranscript := r.publicTranscript ++ is } :=
  whileOpen_eq_ok

theorem recordPrivate_eq_ok {r r' : Recorder} {v : AlignedValue} :
    r.recordPrivate v = .ok r' ↔
      r.finished = false ∧ r' = { r with privateOutputs := r.privateOutputs ++ [v] } :=
  whileOpen_eq_ok

/-- Nothing but the program itself can make it fail: each price can be paid, there is no limit, and the
recorder takes in what comes. -/
structure Ready (s : CallState) : Prop where
  rates : ∃ prices : CostModel, prices.Payable ∧ s.context.rates = prices.tariff
  limit : s.context.gas.limit = none
  isOpen : s.recorder.finished = false
  noOutput : s.recorder.output = none

theorem query_performs [Memory] {is : List Instr} {v : Option AlignedValue}
    (h : query cfg (.ofInstrs is) s = .ok v s') :
    ∃ t reads, Stack.performAll cfg is [s.context.tree] = .ok ([t], reads) ∧ v = reads.getLast? ∧
      s'.context.tree = t ∧ s'.context.privateState = s.context.privateState := by
  obtain ⟨o, gas, r, hrun, -, rfl, rfl⟩ := query_eq_ok.mp h
  exact ⟨o.tree, o.reads, Machine.performAll_of_steps (Machine.run_eq_ok.mp hrun).1, rfl, rfl, rfl⟩

theorem Ready.gas_eq (hs : Ready s) : s.context.gas = ⟨none, s.context.gas.used⟩ := by
  rw [← hs.limit]

variable [Memory]

theorem Ready.query {is : List Instr} {t : Tree} {reads : List AlignedValue} (hs : Ready s)
    (h : Stack.performAll cfg is [s.context.tree] = .ok ([t], reads)) :
    ∃ s', query cfg (.ofInstrs is) s = .ok reads.getLast? s' ∧ s'.context.tree = t ∧
      s'.context.privateState = s.context.privateState ∧ Ready s' := by
  obtain ⟨prices, hp, hrates⟩ := hs.rates
  obtain ⟨o, m', ho⟩ := Machine.exists_run hp h s.context.gas.used
  rw [← hrates, ← hs.gas_eq] at ho
  have hq := query_eq_ok.mpr ⟨o, m', _, ho, recordInstrs_eq_ok.mpr ⟨hs.isOpen, rfl⟩, rfl, rfl⟩
  obtain ⟨t', reads', hp, hv, ht, hk⟩ := query_performs hq
  cases hp.symm.trans h
  rw [hv] at hq
  refine ⟨_, hq, ht, hk, hs.rates, ?_, hs.isOpen, hs.noOutput⟩
  rw [(Machine.run_unlimited ho).1]
  exact hs.limit

/-- What stops the program is all that can stop the query. -/
theorem Ready.query_error {is : List Instr} {e : Fault} (hs : Ready s)
    (h : Stack.performAll cfg is [s.context.tree] = .error e) :
    ∃ s', Call.query cfg (.ofInstrs is) s = .error e s' := by
  obtain ⟨prices, hp, hrates⟩ := hs.rates
  obtain ⟨m', ho⟩ := Machine.exists_run_error hp h s.context.gas.used
  rw [← hrates, ← hs.gas_eq] at ho
  exact ⟨_, by rw [Call.query, ho]⟩

/-- The call is ready to go on, from this root and with this secret. -/
structure At (root : Tree) (secret : Datum) (s : CallState) : Prop where
  ready : Ready s
  tree : s.context.tree = root
  secret : s.context.privateState = secret

theorem At.query_ends {root : Tree} {secret : Datum} (hs : At root secret s) {is : List Instr}
    {x : Except Fault (Tree × List AlignedValue)}
    (hx : Stack.performAll cfg is [root] = x.map fun p => ([p.1], p.2)) :
    Ends (query cfg (.ofInstrs is) s)
      (fun v t => ∃ p, x = .ok p ∧ v = p.2.getLast? ∧ At p.1 secret t) (fun e => x = .error e) := by
  obtain ⟨hr, rfl, rfl⟩ := hs
  cases x with
  | ok p =>
    obtain ⟨t, hq, ht, hk, hr⟩ := hr.query hx
    rw [hq]
    exact ⟨p, rfl, rfl, hr, ht, hk⟩
  | error e =>
    obtain ⟨t, hq⟩ := hr.query_error hx
    rw [hq]
    exact rfl

end Call

variable [Memory]

namespace Witnesses

variable {View : Type} {ws : Witnesses View} {name : String} {d : Descriptor} {view : View}
variable {s s' : CallState} {value : Datum}

/-- A witness bears on the private state and on the private part of the record. -/
theorem exists_of_call (h : ws.call name d view s = .ok value s') :
    ∃ method privateState v r, ws.lookup name = some (.method method) ∧
      checkReturn name (method ⟨view, s.context.privateState, s.context.address⟩) d =
        .ok (privateState, value) ∧
      d.aligned value = .ok v ∧ s.recorder.recordPrivate v = .ok r ∧
      s' = ⟨{ s.context with privateState := privateState }, r⟩ := by
  obtain ⟨_, _, ⟨⟩, h⟩ := bind_run_eq_ok.mp h
  cases hl : ws.lookup name with
  | none =>
    simp only [hl] at h
    obtain ⟨_, _, ⟨⟩, -⟩ := bind_run_eq_ok.mp h
  | some entry =>
    simp only [hl] at h
    cases entry with
    | value given => obtain ⟨_, _, ⟨⟩, -⟩ := bind_run_eq_ok.mp h
    | method method =>
      obtain ⟨_, _, ⟨⟩, h⟩ := bind_run_eq_ok.mp h
      obtain ⟨⟨privateState, given⟩, hc, h⟩ := bind_ofExcept_run.mp h
      obtain ⟨_, _, ⟨⟩, h⟩ := bind_run_eq_ok.mp h
      obtain ⟨v, hv, h⟩ := bind_ofExcept_run.mp h
      obtain ⟨_, _, hr, ⟨⟩⟩ := bind_run_eq_ok.mp h
      obtain ⟨r, hrecord, rfl⟩ := Call.record_eq_ok.mp hr
      exact ⟨method, privateState, v, r, rfl, hc, hv, hrecord, rfl⟩

/-- What a witness gives is the value of the call if it fits and the recorder is open. -/
theorem call_of_method {method : WitnessContext View → Datum} {privateState : Datum} {a : AlignedValue}
    (hm : ws.lookup name = some (.method method))
    (hr : checkReturn name (method ⟨view, s.context.privateState, s.context.address⟩) d =
      .ok (privateState, value))
    (ha : d.aligned value = .ok a) (ho : s.recorder.finished = false) :
    ws.call name d view s = .ok value ⟨{ s.context with privateState := privateState },
      { s.recorder with privateOutputs := s.recorder.privateOutputs ++ [a] }⟩ := by
  refine bind_run_eq_ok.mpr ⟨s, s, rfl, ?_⟩
  simp only [hm]
  refine bind_run_eq_ok.mpr ⟨_, s, rfl, bind_ofExcept_run.mpr ⟨_, hr, ?_⟩⟩
  refine bind_run_eq_ok.mpr ⟨(), _, rfl, bind_ofExcept_run.mpr ⟨a, ha, ?_⟩⟩
  refine bind_run_eq_ok.mpr ⟨(), _, ?_, rfl⟩
  exact Call.record_eq_ok.mpr ⟨_, Call.recordPrivate_eq_ok.mpr ⟨ho, rfl⟩, rfl⟩

end Witnesses

end AlignedLedger
