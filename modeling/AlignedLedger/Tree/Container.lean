import AlignedLedger.Tree
import AlignedLedger.Tree.Entries

/-! Reaching into trees and changing them. Each change gives a new tree and leaves the old one as it
is; nothing is made up for a key that is missing or of the wrong kind. -/

namespace AlignedLedger.Tree

/-- The position that a key names in an array of this size. -/
def position (key : AlignedValue) (size : Nat) : Except Fault Nat :=
  match key.toNat? with
  | none => .error (.notNumericKey key.alignment)
  | some i => if i < size then .ok i else .error (.indexOutOfRange i size)

def newArray : Tree := array []

def newMap : Tree := map []

/-- A map of these entries; of entries under one key the last counts. -/
def ofEntries (es : List (AlignedValue × Tree)) : Tree := map (Entries.ofList es)

variable [Memory]

/-- A map of these entries, if there is room for the binary forms that put its keys in order. -/
def makeMap (es : List (AlignedValue × Tree)) : Except Fault Tree := do
  es.forM fun e => e.1.requestBinary
  pure (ofEntries es)

def index (t : Tree) (key : AlignedValue) : Except Fault Tree :=
  match t with
  | array items => do
    let i ← position key items.length
    match items[i]? with
    | some u => pure u
    | none => throw (.indexOutOfRange i items.length)
  | map entries => match Entries.get? key entries with
    | some u => .ok u
    | none => .error (.missingMapKey key)
  | t => .error (.unsupported .index t.tag)

def insert (cfg : Config) (t : Tree) (key : AlignedValue) (value : Tree) : Except Fault Tree :=
  match t with
  | array items => do
    let i ← position key items.length
    makeArray cfg (items.set i value)
  | map entries => do
    key.requestBinary
    pure (map (Entries.insert key value entries))
  | t => .error (.unsupported .insert t.tag)

def remove (t : Tree) (key : AlignedValue) : Except Fault Tree :=
  match t with
  | map entries =>
    if (Entries.get? key entries).isSome then .ok (map (Entries.erase key entries))
    else .error (.missingMapKey key)
  | t => .error (.unsupported .remove t.tag)

/-- Appends to an array. -/
def push (cfg : Config) (t value : Tree) : Except Fault Tree :=
  match t with
  | array items => makeArray cfg (items ++ [value])
  | t => .error (.unsupported .push t.tag)

/-- The entry of a map, if there is one; only maps can be asked. -/
def get? (t : Tree) (key : AlignedValue) : Except Fault (Option Tree) :=
  match t with
  | map entries => .ok (Entries.get? key entries)
  | _ => .error .missingAttribute

/-- The keys of a map, in order. -/
def keys : Tree → Except Fault (List AlignedValue)
  | map entries => .ok (entries.map Prod.fst)
  | _ => .error .missingAttribute

end AlignedLedger.Tree
