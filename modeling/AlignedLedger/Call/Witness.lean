import AlignedLedger.Call.Context
import AlignedLedger.Descriptor.Decode
import AlignedLedger.Descriptor.Encode

/-! The boundary to values that only the caller knows. A witness gets a view of the ledger, the private
state and the address, and gives the next private state and a value. The value is checked against a
descriptor before it is used, and goes into the private part of the record only. -/

namespace AlignedLedger

/-- What a witness can see. -/
structure WitnessContext (View : Type) where
  ledger : View
  privateState : Datum
  address : Bytes

/-- What stands under a name in a set of witnesses. -/
inductive WitnessEntry (View : Type) where
  | method (call : WitnessContext View → Datum)
  | value (d : Datum)

abbrev Witnesses (View : Type) := List (String × WitnessEntry View)

namespace Witnesses

variable {View : Type}

def method? (ws : Witnesses View) (name : String) : Option (WitnessContext View → Datum) :=
  match ws.lookup name with
  | some (.method call) => some call
  | _ => none

/-- There is something to call under each of the names. -/
def check (ws : Option (Witnesses View)) (names : List String) : Except Fault Unit :=
  match ws with
  | none => .error .witnessesRequired
  | some ws => match names.find? fun n => (ws.method? n).isNone with
    | some n => .error (.witnessMissing n)
    | none => .ok ()

variable [Memory]

/-- The two parts of what a witness gave, if it is a pair whose value fits the descriptor. -/
def checkReturn (name : String) (given : Datum) (d : Descriptor) : Except Fault (Datum × Datum) :=
  match given with
  | .tuple [privateState, value] => match d.encode value with
    | .ok _ => .ok (privateState, value)
    | .error e =>
      if e.told.kind = .descriptor then .error (.witnessValue name d.name e) else .error e.told
  | _ => .error (.witnessReturn name given)

/-- Calls a witness and takes over what it gives. -/
def call (ws : Witnesses View) (name : String) (d : Descriptor) (view : View) : Call Datum := do
  let s ← get
  let given ← match ws.lookup name with
    | some (.method method) => pure (method ⟨view, s.context.privateState, s.context.address⟩)
    | some (.value _) => throw .wrongType
    | none => throw .missingAttribute
  let (privateState, value) ← MonadExcept.ofExcept (checkReturn name given d)
  set { s with context := { s.context with privateState := privateState } }
  let v ← MonadExcept.ofExcept (d.aligned value)
  Call.record fun r => r.recordPrivate v
  pure value

end Witnesses

end AlignedLedger
