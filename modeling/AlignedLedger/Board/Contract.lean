import AlignedLedger.Board.Key
import AlignedLedger.Board.View

/-! The bulletin board contract. A vacant board takes a message from anyone, who becomes its owner; an
occupied one gives it back to its owner and is vacant again. Each post and each take-down moves the
sequence number on. -/

namespace AlignedLedger.Board

def occupiedReason : String := "Attempted to post to an occupied board"

def emptyReason : String := "Attempted to take down post from an empty board"

def notOwnerReason : String := "Attempted to take down post, but not the current owner"

def witnessName : String := "local_secret_key"

/-- The private state is the secret key, and the witness gives it back. -/
def secretKeyWitnesses : Witnesses View :=
  [(witnessName, .method fun c => .tuple [c.privateState, c.privateState])]

/-- What a circuit that succeeds gives. -/
structure CircuitResult where
  result : Datum
  context : CallContext
  proof : ProofRecord
  gas : Meter

namespace CircuitResult

def toJson (r : CircuitResult) : Json :=
  .object [("costUsed", .int r.gas.used), ("proofData", r.proof.toJson)]

end CircuitResult

variable [Memory]

/-- Asks for the secret key, with the board as it stands in view. -/
def secretKey (cfg : Config) (ws : Witnesses View) : Call Bytes := do
  let s ← get
  let view ← MonadExcept.ofExcept (View.ofTree cfg s.context.tree)
  let d ← ws.call witnessName Slot.owner.descriptor view
  expect d.bytes?

def postBody (cfg : Config) (ws : Witnesses View) (message : Datum) : Call Unit := do
  let state ← readState cfg
  MonadExcept.ofExcept (assertThat (state = .vacant) occupiedReason)
  let sk ← secretKey cfg ws
  let sequence ← readSequence cfg
  let owner ← MonadExcept.ofExcept (ownerKey sk (sequenceBytes sequence))
  Slot.owner.write cfg (.bytes owner)
  Slot.message.write cfg message.present
  Slot.state.write cfg Occupancy.occupied.toDatum
  Slot.sequence.add cfg 1

/-- The live post was made one step of the sequence ago. -/
def isOwner (sk owner : Bytes) (sequence : Nat) : Except Fault Bool :=
  if 1 ≤ sequence then (ownerKey sk (sequenceBytes (sequence - 1))).map (owner == ·) else .ok false

def takeDownBody (cfg : Config) (ws : Witnesses View) : Call String := do
  let state ← readState cfg
  MonadExcept.ofExcept (assertThat (state = .occupied) emptyReason)
  let owner ← readOwner cfg
  let sk ← secretKey cfg ws
  let sequence ← readSequence cfg
  let owns ← MonadExcept.ofExcept (isOwner sk owner sequence)
  MonadExcept.ofExcept (assertThat owns notOwnerReason)
  let former ← readMessage cfg
  Slot.state.write cfg Occupancy.vacant.toDatum
  Slot.sequence.add cfg 1
  Slot.message.write cfg (messageDatum none)
  pure (former.getD "")

/-- Runs the body of a circuit on a copy of the context, under the configured limit. -/
def runCircuit {α : Type} (cfg : Config) (c : CallContext) (input : AlignedValue) (body : Call α) :
    Except Fault (α × CallState) :=
  match body ⟨c.withMeter (.capped cfg.limit?), .start input⟩ with
  | .ok x s => .ok (x, s)
  | .error e _ => .error e

/-- The result of a call that has come to its end. -/
def close (result : Datum) (output : AlignedValue) (s : CallState) : Except Fault CircuitResult := do
  let r ← s.recorder.setOutput output
  pure ⟨result, s.context, r.finish.toProof, s.context.gas⟩

def post (cfg : Config) (ws : Witnesses View) (c : CallContext) (message : Datum) :
    Except Fault CircuitResult := do
  let input ← Descriptor.text.aligned message
  let ((), s) ← runCircuit cfg c input (postBody cfg ws message)
  close .null .empty s

def takeDown (cfg : Config) (ws : Witnesses View) (c : CallContext) : Except Fault CircuitResult := do
  let (former, s) ← runCircuit cfg c .empty (takeDownBody cfg ws)
  let output ← Descriptor.text.aligned (.text former)
  close (.text former) output s

/-- The owner key as a circuit: nothing is read from the ledger and nothing is used. -/
def publicKeyProof (secretKey sequence : Datum) : Except Fault (Bytes × ProofRecord) := do
  let sk ← bytes32 "sk" secretKey
  let seq ← bytes32 "sequence" sequence
  let input ← (Descriptor.vector 2 .bytes32).aligned (.tuple [.bytes sk, .bytes seq])
  let key ← ownerKey sk seq
  let output ← Descriptor.bytes32.aligned (.bytes key)
  pure (key, ⟨input, output, [], []⟩)

/-- The names of the circuits that change the ledger. -/
def impureCircuits : List String := ["post", "takeDown"]

def circuits : List String := ["post", "publicKey", "takeDown"]

/-- Four empty places, one a slot. -/
def emptyRoot (cfg : Config) : Except Fault Tree :=
  (List.replicate 4 Tree.null).foldlM (fun t u => t.push cfg u) Tree.newArray

def fillBody (cfg : Config) : Call Unit := do
  Slot.state.write cfg Occupancy.vacant.toDatum
  Slot.message.write cfg (messageDatum none)
  Slot.sequence.write cfg (.int 0)
  Slot.owner.write cfg (.bytes (Bytes.zeros 32))

/-- A fresh, vacant board. -/
def initialState (cfg : Config) (address privateState : Datum) : Except Fault CallContext := do
  let root ← emptyRoot cfg
  let address ← Address.ofDatum address
  let c := CallContext.make (.ofTree root) address privateState Tariff.standard
  match fillBody cfg ⟨c, .start .empty⟩ with
  | .ok _ s => pure s.context
  | .error e _ => throw e

end AlignedLedger.Board
