import AlignedLedger.Machine.Persistence

/-! The record of a call: its argument, the instructions run on the ledger, the values its witnesses
gave, and its result. A recorder takes these in while the call runs and refuses all of them once it is
finished. -/

namespace AlignedLedger

/-- A finished record. -/
structure ProofRecord where
  input : AlignedValue
  output : AlignedValue
  publicTranscript : List Instr
  privateOutputs : List AlignedValue
deriving DecidableEq

namespace ProofRecord

def toJson (p : ProofRecord) : Json :=
  .object [("input", p.input.toJson), ("output", p.output.toJson),
    ("publicTranscript", .array (p.publicTranscript.map Instr.toJson)),
    ("privateTranscriptOutputs", .array (p.privateOutputs.map AlignedValue.toJson))]

/-- The parts that anyone may see. -/
def publicItems (p : ProofRecord) : List Cbor.Item :=
  [p.input.toItem, p.output.toItem, Instr.listItem p.publicTranscript]

def publicBinary (p : ProofRecord) : Bytes := Cbor.encode (.array p.publicItems)

def encode (p : ProofRecord) : Bytes :=
  Cbor.encode (.array (p.publicItems ++ [.array (p.privateOutputs.map AlignedValue.toItem)]))

variable [Memory]

def ofDatum (cfg : Config) (d : Datum) : Except Fault ProofRecord :=
  match d with
  | .list [input, output, instrs, outputs] => do
    let input ← AlignedValue.ofDatum input
    let output ← AlignedValue.ofDatum output
    let instrs ← instrs.elements >>= List.mapM (Instr.ofDatum cfg)
    let outputs ← outputs.elements >>= List.mapM AlignedValue.ofDatum
    pure ⟨input, output, instrs, outputs⟩
  | _ => .error .proofShape

def decode (cfg : Config) (b : Bytes) : Except Fault ProofRecord :=
  match Cbor.decode? b with
  | some item => ofDatum cfg item.toDatum
  | none => .error (.invalidCbor "proof data")

end ProofRecord

structure Recorder where
  input : AlignedValue
  output : Option AlignedValue
  publicTranscript : List Instr
  privateOutputs : List AlignedValue
  finished : Bool
deriving DecidableEq

namespace Recorder

def start (input : AlignedValue) : Recorder := ⟨input, none, [], [], false⟩

/-- Changes a recorder that is still open. -/
def whileOpen (r : Recorder) (change : Recorder → Recorder) : Except Fault Recorder :=
  if r.finished then .error .transcriptFinished else .ok (change r)

def recordInstrs (r : Recorder) (is : List Instr) : Except Fault Recorder :=
  r.whileOpen fun r => { r with publicTranscript := r.publicTranscript ++ is }

def recordPrivate (r : Recorder) (v : AlignedValue) : Except Fault Recorder :=
  r.whileOpen fun r => { r with privateOutputs := r.privateOutputs ++ [v] }

/-- The output can be set once. -/
def setOutput (r : Recorder) (v : AlignedValue) : Except Fault Recorder :=
  if r.finished then .error .transcriptFinished
  else match r.output with
    | some _ => .error .outputAlreadySet
    | none => .ok { r with output := some v }

/-- Closes the recorder. Without an output set, the output is empty. -/
def finish (r : Recorder) : Recorder :=
  { r with output := some (r.output.getD .empty), finished := true }

/-- The record as it stands. -/
def toProof (r : Recorder) : ProofRecord :=
  ⟨r.input, r.output.getD .empty, r.publicTranscript, r.privateOutputs⟩

end Recorder

end AlignedLedger
