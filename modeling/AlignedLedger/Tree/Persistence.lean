import AlignedLedger.Cbor.Reader
import AlignedLedger.Cbor.Writer
import AlignedLedger.Tree.Container

/-! The stored form of trees: each node is a list that begins with the number of its kind. A state
file holds a tree, the bytes charged for it, a mark and the version of the format. -/

namespace AlignedLedger.Tree

mutual

def toItem : Tree → Cbor.Item
  | null => .array [.int 0]
  | cell v => .array [.int 1, v.toItem]
  | array items => .array [.int 2, .array (toItemList items)]
  | map entries => .array [.int 3, .array (toItemEntries entries)]

def toItemList : List Tree → List Cbor.Item
  | [] => []
  | t :: ts => t.toItem :: toItemList ts

def toItemEntries : List (AlignedValue × Tree) → List Cbor.Item
  | [] => []
  | (k, t) :: es => .array [k.toItem, t.toItem] :: toItemEntries es

end

def encode (t : Tree) : Bytes := Cbor.encode t.toItem

variable [Memory]

mutual

def ofDatum (cfg : Config) : Datum → Except Fault Tree
  | .list [] => .error (.badNode (.list []))
  | .list (tag :: rest) => match tag.index? with
    | none => .error (.badNode (.list (tag :: rest)))
    | some n => match n, rest with
      | 0, [] => .ok null
      | 1, [v] => AlignedValue.ofDatum v >>= makeCell cfg
      | 2, [.list items] => ofData cfg items >>= makeArray cfg
      | 3, [.list entries] => ofEntryData cfg entries >>= makeMap
      | _, _ => .error (.unknownNodeTag tag)
  | d => .error (.badNode d)

def ofData (cfg : Config) : List Datum → Except Fault (List Tree)
  | [] => .ok []
  | d :: ds => do
    let t ← ofDatum cfg d
    let ts ← ofData cfg ds
    pure (t :: ts)

def ofEntryData (cfg : Config) : List Datum → Except Fault (List (AlignedValue × Tree))
  | [] => .ok []
  | .list [k, d] :: ds => do
    let key ← AlignedValue.ofDatum k
    let t ← ofDatum cfg d
    let es ← ofEntryData cfg ds
    pure ((key, t) :: es)
  | d :: _ => .error (.badMapEntry d)

end

def decode (cfg : Config) (b : Bytes) : Except Fault Tree :=
  match Cbor.decode? b with
  | some item => ofDatum cfg item.toDatum
  | none => .error (.invalidCbor "state")

end AlignedLedger.Tree

namespace AlignedLedger.ChargedState

/-- The mark at the front of a state file. -/
def magic : Bytes := [0x4c, 0x56, 0x53, 0x54]

def formatVersion : Nat := 1

def encode (s : ChargedState) : Bytes :=
  Cbor.encode (.array [.bytes magic, .nat formatVersion, s.tree.toItem, .nat s.charged])

variable [Memory]

def ofDatum (cfg : Config) (d : Datum) : Except Fault ChargedState :=
  match d with
  | .list [mark, version, node, charged] =>
    if !mark.same (.bytes magic) then .error .notAStateFile
    else if !version.same (.int formatVersion) then .error (.unsupportedVersion version)
    else do
      let t ← Tree.ofDatum cfg node
      let n ← charged.toInt
      pure (make t n)
  | _ => .error .notAStateFile

def decode (cfg : Config) (b : Bytes) : Except Fault ChargedState :=
  match Cbor.decode? b with
  | some item => ofDatum cfg item.toDatum
  | none => .error (.invalidCbor "charged state")

end AlignedLedger.ChargedState
