import AlignedLedger.Address
import AlignedLedger.Machine.Run
import AlignedLedger.Transcript

/-! What one call of a contract works with: the ledger state it reads and changes, the private state
of its witnesses, the price list and the meter. A call works on a copy of its caller's context, so a
call that fails leaves no trace. -/

namespace AlignedLedger

structure CallContext where
  /-- The state the caller started from. -/
  initial : ChargedState
  current : ChargedState
  address : Bytes
  privateState : Datum
  rates : Tariff
  gas : Meter

namespace CallContext

def make (state : ChargedState) (address : Bytes) (privateState : Datum) (rates : Tariff) :
    CallContext :=
  ⟨state, state, address, privateState, rates, .start none⟩

/-- A context for evaluations outside of calls. -/
def detached (t : Tree) : CallContext := make (.ofTree t) Address.dummy .null Tariff.standard

/-- The copy that a call works on, with a meter of its own. -/
def withMeter (c : CallContext) (m : Meter) : CallContext := { c with gas := m }

def tree (c : CallContext) : Tree := c.current.tree

end CallContext

/-- A call on its way: its context and its recorder. -/
structure CallState where
  context : CallContext
  recorder : Recorder

/-- A part of a call. What it did before it failed stays visible. -/
abbrev Call := EStateM Fault CallState

namespace Call

def record (change : Recorder → Except Fault Recorder) : Call Unit := fun s =>
  match change s.recorder with
  | .ok r => .ok () { s with recorder := r }
  | .error e => .error e s

variable [Memory]

/-- Runs a program on the current state. The new state is installed once the instructions are on
record; what was used stays used also when the program fails. The value is that of the last read. -/
def query (cfg : Config) (program : Program) : Call (Option AlignedValue) := fun s =>
  match Machine.run cfg s.context.rates s.context.tree program s.context.gas with
  | .error e gas => .error e { s with context := { s.context with gas := gas } }
  | .ok o gas =>
    let s := { s with context := { s.context with gas := gas } }
    match s.recorder.recordInstrs o.executed with
    | .error e => .error e s
    | .ok r =>
      .ok o.lastRead? ⟨{ s.context with current := .ofTree o.tree }, r⟩

end Call

end AlignedLedger
