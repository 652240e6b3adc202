import AlignedLedger.Datum.Equality

/-! The data items of the binary object format CBOR that state files and transcripts use. -/

namespace AlignedLedger.Cbor

inductive Item where
  | int (i : Int)
  | bytes (b : Bytes)
  | text (s : String)
  | array (items : List Item)
  | map (entries : List (Item × Item))
  | bool (b : Bool)
  | null

namespace Item

def nat (n : Nat) : Item := .int n

mutual

/-- An item as loosely typed data; a later equal key of a map replaces an earlier one. -/
def toDatum : Item → Datum
  | int i => .int i
  | bytes b => .bytes b
  | text s => .text s
  | array xs => .list (toData xs)
  | map es => Datum.dictOf (toEntries es)
  | bool b => .bool b
  | null => .null

def toData : List Item → List Datum
  | [] => []
  | x :: xs => toDatum x :: toData xs

def toEntries : List (Item × Item) → List (Datum × Datum)
  | [] => []
  | (k, v) :: es => ((toDatum k).asKey, toDatum v) :: toEntries es

end

end Item

end AlignedLedger.Cbor
