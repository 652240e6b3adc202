import AlignedLedger.Call.Context

/-! A call that is driven from outside, step by step. Callers may hand things to its recorder that
cannot go on record. The recorder takes them in and only fails once the record is asked for. -/

namespace AlignedLedger

/-- What a recorder has taken in that cannot go on record. -/
structure Strays where
  /-- In the place of its input. -/
  input : Option Datum
  /-- In the place of its output. -/
  output : Option Datum
  /-- The number of steps that are no instructions. -/
  steps : Nat
  /-- The number of private outputs. -/
  privateOutputs : Nat

namespace Strays

def none : Strays := ⟨Option.none, Option.none, 0, 0⟩

/-- Nothing is in the way of a record. An output that counts as false gives way to an empty one. -/
def allowRecord (s : Strays) : Bool :=
  s.input.isNone && !s.output.any Datum.truth && s.steps = 0 && s.privateOutputs = 0

end Strays

structure Session where
  call : CallState
  strays : Strays

/-- A step of a session. What it did before it failed stays visible. -/
abbrev InSession := EStateM Fault Session

namespace Session

/-- The input may be no aligned value. -/
def start (c : CallContext) (input : AlignedValue ⊕ Datum) : Session :=
  match input with
  | .inl v => ⟨⟨c, .start v⟩, .none⟩
  | .inr d => ⟨⟨c, .start .empty⟩, { Strays.none with input := some d }⟩

def ofCall {α : Type} (call : Call α) : InSession α := fun s =>
  match call s.call with
  | .ok x c => .ok x { s with call := c }
  | .error e c => .error e { s with call := c }

/-- A recorder that is finished takes in nothing. -/
def requireOpen : InSession Unit := do
  if (← get).call.recorder.finished then throw .transcriptFinished

def recordSteps (p : Program) : InSession Unit := do
  ofCall (Call.record fun r => r.recordInstrs p.instrs)
  let stray := p.length - p.instrs.length
  modify fun s => { s with strays := { s.strays with steps := s.strays.steps + stray } }

def recordPrivate (v : AlignedValue ⊕ Datum) : InSession Unit := do
  match v with
  | .inl v => ofCall (Call.record fun r => r.recordPrivate v)
  | .inr _ =>
    requireOpen
    modify fun s =>
      { s with strays := { s.strays with privateOutputs := s.strays.privateOutputs + 1 } }
    throw .missingAttribute

/-- The output can be set once. Null leaves it open. -/
def setOutput (v : AlignedValue ⊕ Datum) : InSession Unit := do
  requireOpen
  let s ← get
  if s.strays.output.isSome || s.call.recorder.output.isSome then throw .outputAlreadySet
  match v with
  | .inl v => ofCall (Call.record fun r => r.setOutput v)
  | .inr .null => pure ()
  | .inr d => set { s with strays := { s.strays with output := some d } }

/-- Closes the recorder and gives the record. -/
def finish : InSession ProofRecord := do
  modify fun s => { s with call := { s.call with recorder := s.call.recorder.finish } }
  let s ← get
  if s.strays.allowRecord then pure s.call.recorder.toProof else throw .missingAttribute

/-- Goes on with a new recorder. -/
def restart : InSession Unit :=
  modify fun s => ⟨{ s.call with recorder := .start .empty }, .none⟩

/-- The number of steps on record. -/
def stepCount (s : Session) : Nat := s.call.recorder.publicTranscript.length + s.strays.steps

/-- The number of private outputs on record. -/
def privateCount (s : Session) : Nat :=
  s.call.recorder.privateOutputs.length + s.strays.privateOutputs

end Session

end AlignedLedger
