import AlignedLedger.Bytes.BigEndian
import AlignedLedger.Bytes.Utf8
import AlignedLedger.Cbor.Item

/-! The canonical form: shortest heads, definite lengths, and integers beyond 64 bits as big numbers. -/

namespace AlignedLedger.Cbor

/-- The head of an item: its major type and its argument, which is below `2 ^ 64`. -/
def head (major n : Nat) : Bytes :=
  if n < 24 then [UInt8.ofNat (32 * major + n)]
  else if n < 1 <<< 8 then UInt8.ofNat (32 * major + 24) :: BigEndian.ofNatFixed 1 n
  else if n < 1 <<< 16 then UInt8.ofNat (32 * major + 25) :: BigEndian.ofNatFixed 2 n
  else if n < 1 <<< 32 then UInt8.ofNat (32 * major + 26) :: BigEndian.ofNatFixed 4 n
  else UInt8.ofNat (32 * major + 27) :: BigEndian.ofNatFixed 8 n

def encodeBytes (major : Nat) (b : Bytes) : Bytes := head major b.length ++ b

/-- A big number is a byte string under the tag of its sign. -/
def encodeInt : Int → Bytes
  | .ofNat n => if n < 1 <<< 64 then head 0 n else head 6 2 ++ encodeBytes 2 (BigEndian.ofNat n)
  | .negSucc n => if n < 1 <<< 64 then head 1 n else head 6 3 ++ encodeBytes 2 (BigEndian.ofNat n)

mutual

def encode : Item → Bytes
  | .int i => encodeInt i
  | .bytes b => encodeBytes 2 b
  | .text s => encodeBytes 3 (Utf8.encode s)
  | .array xs => head 4 xs.length ++ encodeList xs
  | .map es => head 5 es.length ++ encodeEntries es
  | .bool b => head 7 (if b then 21 else 20)
  | .null => head 7 22

def encodeList : List Item → Bytes
  | [] => []
  | x :: xs => encode x ++ encodeList xs

def encodeEntries : List (Item × Item) → Bytes
  | [] => []
  | (k, v) :: es => encode k ++ encode v ++ encodeEntries es

end

end AlignedLedger.Cbor
