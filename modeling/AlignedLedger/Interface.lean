import AlignedLedger.Address
import AlignedLedger.Board.Key

/-! The basic operations under their names, for callers that have loosely typed arguments. -/

namespace AlignedLedger.Interface

def bytesLike (d : Datum) : Except Fault Bytes :=
  match d.bytes? with
  | some b => .ok b
  | none => .error (.notBytesLike "data" d)

variable [Memory]

/-- The number that bytes form, lowest first; a sequence of bytes will do, a number will not. -/
def segmentToInt (d : Datum) : Except Fault Datum :=
  match d.index? with
  | some _ => .error .wrongType
  | none => d.toBytes.map fun b => .int (LittleEndian.toNat b)

/-- Fractions have an order but no bytes. -/
def intToSegment (d : Datum) : Except Fault Bytes :=
  match d.index?, d with
  | some i, _ => segmentOfInt i
  | none, .float x =>
    if x.isZero then .ok []
    else .error (if x.less (.ofInt 0) then .negativeInteger else .missingAttribute)
  | none, _ => .error .wrongType

def encodeLeb128 (d : Datum) : Except Fault Datum :=
  match d.index?, d with
  | some (.ofNat n), _ => .ok (.bytes (leb128 n))
  | some (.negSucc _), _ => .error .badValue
  | none, .float x => .error (if x.less (.ofInt 0) then .badValue else .wrongType)
  | none, _ => .error .wrongType

/-- A length with room for so many parts of a unit. Fractions can be compared with a size, but nothing
is a fraction of a byte long. -/
def roomFor (parts scale : Nat) (length : Datum) (refusal : Fault) : Except Fault Nat :=
  match length.index?, length with
  | some i, _ => do
    if i * scale < parts then throw refusal
    Memory.request i.toNat
    pure i.toNat
  | none, .float x =>
    .error (if (x.times (.ofInt scale)).less (.ofInt parts) then refusal else .wrongType)
  | none, _ => .error .wrongType

/-- Text in UTF-8, filled up with zeros to a length. -/
def pad (length text : Datum) : Except Fault Datum :=
  match text with
  | .text s => do
    let b := Utf8.encode s
    let n ← roomFor b.length 1 length (.textTooLong s length)
    pure (.bytes (b.padTo n))
  | .broken _ => .error .unencodable
  | _ => .error .missingAttribute

def bitLength (n : Nat) : Nat := if n = 0 then 0 else n.log2 + 1

def fieldToBytes (length value : Datum) : Except Fault Datum :=
  match length, value.integer? with
  | .int n, _ => (numberToBytes n value).map .bytes
  | _, some (.ofNat v) => do
    let n ← roomFor (bitLength v) 8 length (.numberTooWide v length)
    pure (.bytes (LittleEndian.ofNatPadded n v))
  | _, _ => .error (.notNatural value)

/-- A number in a slot. -/
def alignedOfInt (d : Datum) (a : Atom) : Except Fault AlignedValue := do
  let s ← intToSegment d
  AlignedValue.ofSegments [s] [a]

/-- The length of a secret key that is made at random. -/
def generatedKeyLength : Nat := 32

def call (name : String) (args : List Datum) : Except Fault Datum :=
  match name, args with
  | "strip_segment", [d] => d.toBytes.map fun b => .bytes b.stripZeros
  | "int_to_segment", [d] => (intToSegment d).map .bytes
  | "segment_to_int", [d] => segmentToInt d
  | "uvarint_encode", [d] => encodeLeb128 d
  | "pad", [length, text] => pad length text
  | "sha256", [d] => (bytesLike d).map fun b => .bytes (AlignedLedger.sha256 b)
  | "field_to_bytes", [length, value] => fieldToBytes length value
  | "bytes_to_field", [d] => (bytesLike d).map fun b => .int (LittleEndian.toNat b)
  | "to_address", [d] => (Address.ofDatum d).map .bytes
  | "dummy_contract_address", [] => .ok (.bytes Address.dummy)
  | "bboard_public_key", [sk, sequence] => (Board.publicKeyOf sk sequence).map .bytes
  | "some", [d] => .ok d.present
  | "generated_key_length", [] => .ok (.int generatedKeyLength)
  | _, _ => .error .wrongType

end AlignedLedger.Interface
