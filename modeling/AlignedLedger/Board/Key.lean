import AlignedLedger.Descriptor.Encode

/-! Owner keys: a hash of the secret key together with the sequence number of the post, so that one
secret key owns each of its posts under another key. -/

namespace AlignedLedger

variable [Memory]

/-- A natural number in exactly so many bytes, lowest first. -/
def numberToBytes (length : Int) (d : Datum) : Except Fault Bytes :=
  match d.integer? with
  | some (.ofNat n) =>
    if ((LittleEndian.ofNat n).length : Int) ≤ length then do
      Memory.request length.toNat
      pure (LittleEndian.ofNatPadded length.toNat n)
    else .error (.numberTooWide n (.int length))
  | _ => .error (.notNatural d)

namespace Board

/-- Sets these hashes apart from others; filled up with zeros to 32 bytes. -/
def keyDomain : Bytes := (Utf8.encode "bboard:pk:").padTo 32

/-- What is hashed for an owner key: the domain, a sequence number and a secret key. -/
def keyPreimage : Descriptor := .vector 3 .bytes32

/-- The owner key for a secret key and the 32 bytes of a sequence number. -/
def ownerKey (secretKey sequence : Bytes) : Except Fault Bytes :=
  keyPreimage.persistentHash (.tuple [.bytes keyDomain, .bytes sequence, .bytes secretKey])

def sequenceBytes (n : Nat) : Bytes := LittleEndian.ofNatPadded 32 n

def bytes32 (argument : String) (d : Datum) : Except Fault Bytes :=
  match d.bytes? with
  | some b => if b.length = 32 then .ok b else .error (.notBytes32 argument)
  | none => .error (.notBytes32 argument)

/-- The owner key for arguments that still have to be checked. -/
def publicKeyOf (secretKey sequence : Datum) : Except Fault Bytes := do
  let sk ← bytes32 "sk" secretKey
  let seq ← bytes32 "sequence" sequence
  ownerKey sk seq

end Board

end AlignedLedger
