import AlignedLedger.Alignment.Room
import AlignedLedger.Alignment.Segment
import AlignedLedger.Config

/-! State trees: cells that hold aligned values, arrays, and maps from aligned keys. -/

namespace AlignedLedger

inductive Tree where
  | null
  | cell (value : AlignedValue)
  | array (items : List Tree)
  /-- Entries in the order of their keys. -/
  | map (entries : List (AlignedValue × Tree))

namespace Tree

mutual

def decEq : (s t : Tree) → Decidable (s = t)
  | null, null => isTrue rfl
  | cell v, cell w => decidable_of_iff (v = w) (by simp)
  | array xs, array ys => @decidable_of_iff _ (xs = ys) (by simp) (decEqList xs ys)
  | map es, map fs => @decidable_of_iff _ (es = fs) (by simp) (decEqEntries es fs)
  | null, cell _ | null, array _ | null, map _ => isFalse (by simp)
  | cell _, null | cell _, array _ | cell _, map _ => isFalse (by simp)
  | array _, null | array _, cell _ | array _, map _ => isFalse (by simp)
  | map _, null | map _, cell _ | map _, array _ => isFalse (by simp)

def decEqList : (xs ys : List Tree) → Decidable (xs = ys)
  | [], [] => isTrue rfl
  | [], _ :: _ => isFalse (by simp)
  | _ :: _, [] => isFalse (by simp)
  | x :: xs, y :: ys =>
    @decidable_of_iff _ (x = y ∧ xs = ys) (by simp)
      (@instDecidableAnd _ _ (decEq x y) (decEqList xs ys))

def decEqEntries : (es fs : List (AlignedValue × Tree)) → Decidable (es = fs)
  | [], [] => isTrue rfl
  | [], _ :: _ => isFalse (by simp)
  | _ :: _, [] => isFalse (by simp)
  | (k, s) :: es, (l, t) :: fs =>
    @decidable_of_iff _ (k = l ∧ s = t ∧ es = fs) (by simp [and_assoc])
      (@instDecidableAnd _ _ _ (@instDecidableAnd _ _ (decEq s t) (decEqEntries es fs)))

end

instance : DecidableEq Tree := decEq

def tag : Tree → String
  | null => "null"
  | cell _ => "cell"
  | array _ => "array"
  | map _ => "map"

variable [Memory]

/-- Why a value does not go into a cell: there is no room for its binary form, or it is over the cap. -/
def cellRefusal (cap : Nat) (v : AlignedValue) : Fault :=
  match v.requestBinary with
  | .ok () => .cellTooLarge cap
  | .error e => e

/-- A cell whose binary form keeps to the cap. -/
def makeCell (cfg : Config) (v : AlignedValue) : Except Fault Tree :=
  if v.binaryLength ≤ cfg.maxCellBytes then .ok (cell v)
  else .error (cellRefusal cfg.maxCellBytes v)

def makeArray (cfg : Config) (items : List Tree) : Except Fault Tree :=
  if items.length ≤ cfg.maxArrayLength then .ok (array items)
  else .error (.arrayTooLong cfg.maxArrayLength)

def asCell : Tree → Except Fault AlignedValue
  | cell v => .ok v
  | t => .error (.notACell t.tag)

/-- The number of entries. -/
def size : Tree → Nat
  | array items => items.length
  | map entries => entries.length
  | _ => 0

mutual

/-- Bytes charged for storing a tree: one a node, and what keys and cells take up in binary form. -/
def storageSize : Tree → Nat
  | null => 1
  | cell v => 1 + v.binaryLength
  | array items => 1 + storageSizeList items
  | map entries => 1 + storageSizeEntries entries

def storageSizeList : List Tree → Nat
  | [] => 0
  | t :: ts => t.storageSize + storageSizeList ts

def storageSizeEntries : List (AlignedValue × Tree) → Nat
  | [] => 0
  | (k, t) :: es => k.binaryLength + t.storageSize + storageSizeEntries es

end

mutual

def toJson : Tree → Json
  | null => .null
  | cell v => v.toJson
  | array items => .array (toJsonList items)
  | map entries => .array (toJsonEntries entries)

def toJsonList : List Tree → List Json
  | [] => []
  | t :: ts => t.toJson :: toJsonList ts

def toJsonEntries : List (AlignedValue × Tree) → List Json
  | [] => []
  | (k, t) :: es => .object [("key", k.toJson), ("value", t.toJson)] :: toJsonEntries es

end

end Tree

/-- A tree and the bytes charged for storing it. The number is never read, only kept. -/
structure ChargedState where
  tree : Tree
  charged : Nat
deriving DecidableEq

namespace ChargedState

/-- Charges what the tree takes up. -/
def ofTree (t : Tree) : ChargedState := ⟨t, t.storageSize⟩

/-- Charges a given number of bytes, or what the tree takes up if that is negative. -/
def make (t : Tree) : Int → ChargedState
  | .ofNat n => ⟨t, n⟩
  | .negSucc _ => ofTree t

end ChargedState

end AlignedLedger
