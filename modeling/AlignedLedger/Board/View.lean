import AlignedLedger.Board.Slot

/-! The fields of a bulletin board as they are read out of a ledger. -/

namespace AlignedLedger.Board

inductive Occupancy where
  | vacant
  | occupied
deriving DecidableEq

namespace Occupancy

def ordinal : Occupancy → Nat
  | vacant => 0
  | occupied => 1

def name : Occupancy → String
  | vacant => "VACANT"
  | occupied => "OCCUPIED"

def toDatum (o : Occupancy) : Datum := .member stateClass.name o.name o.ordinal

def ofDatum? (d : Datum) : Option Occupancy :=
  match d.integer? with
  | some 0 => some vacant
  | some 1 => some occupied
  | _ => none

end Occupancy

def messageDatum : Option String → Datum
  | some s => Datum.present (.text s)
  | none => .maybe (.bool false) (.text "")

def message? : Datum → Option (Option String)
  | .maybe (.bool true) (.text s) => some (some s)
  | .maybe (.bool false) _ => some none
  | _ => none

structure View where
  state : Occupancy
  message : Option String
  sequence : Nat
  owner : Bytes
deriving DecidableEq

/-- A field in the form that the program works with; what a slot's descriptor reads always has it. -/
def expect {α : Type} : Option α → Call α
  | some x => pure x
  | none => throw .wrongType

variable [Memory]

def readState (cfg : Config) : Call Occupancy := do
  let d ← Slot.state.read cfg false
  expect (Occupancy.ofDatum? d)

def readMessage (cfg : Config) : Call (Option String) := do
  let d ← Slot.message.read cfg false
  expect (message? d)

def readSequence (cfg : Config) : Call Nat := do
  let d ← Slot.sequence.read cfg true
  expect (d.integer?.map Int.toNat)

def readOwner (cfg : Config) : Call Bytes := do
  let d ← Slot.owner.read cfg false
  expect d.bytes?

namespace View

def read (cfg : Config) : Call View := do
  let state ← readState cfg
  let message ← readMessage cfg
  let sequence ← readSequence cfg
  let owner ← readOwner cfg
  pure ⟨state, message, sequence, owner⟩

/-- Reads the fields of a tree, outside of any call. -/
def ofTree (cfg : Config) (t : Tree) : Except Fault View :=
  match read cfg ⟨.detached t, .start .empty⟩ with
  | .ok v _ => .ok v
  | .error e _ => .error e

def toData (v : View) : List Datum :=
  [v.state.toDatum, messageDatum v.message, .int v.sequence, .bytes v.owner]

def messageJson : Option String → Json
  | some s => .text s
  | none => .null

def toJson (v : View) : Json :=
  .object [("state", .text v.state.name), ("message", messageJson v.message),
    ("sequence", .int v.sequence), ("owner", .text (Hex.marked v.owner))]

/-- The fields on one line, in the order of their names. -/
def line (v : View) : String :=
  (Json.object [("message", messageJson v.message), ("owner", .text (Hex.marked v.owner)),
    ("sequence", .int v.sequence), ("state", .text v.state.name)]).line

end View

end AlignedLedger.Board
