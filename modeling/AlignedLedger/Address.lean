import AlignedLedger.Datum.Coerce

/-! Contract addresses: 32 bytes, also written in hexadecimal. -/

namespace AlignedLedger.Address

def length : Nat := 32

/-- The address of evaluations that belong to no contract. -/
def dummy : Bytes := Bytes.zeros length

def check (b : Bytes) : Except Fault Bytes :=
  if b.length = length then .ok b else .error (.addressLength b.length)

def ofText (s : String) : Except Fault Bytes :=
  match Hex.decodeMarked? s with
  | some b => check b
  | none => .error (.invalidHexAddress (.text s))

def ofDatum (d : Datum) : Except Fault Bytes :=
  match d with
  | .text s => ofText s
  | .broken _ => .error (.invalidHexAddress d)
  | _ => match d.bytes? with
    | some b => check b
    | none => .error (.notAnAddress d)

end AlignedLedger.Address
