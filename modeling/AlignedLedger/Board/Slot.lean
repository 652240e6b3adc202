import AlignedLedger.Call.Witness

/-! The four slots of a bulletin board in the ledger, and the programs that read and change them. -/

namespace AlignedLedger.Board

inductive Slot where
  | state
  | message
  /-- Counts posts and take-downs. -/
  | sequence
  | owner
deriving DecidableEq

def stateClass : EnumClass := ⟨"State", [("VACANT", 0), ("OCCUPIED", 1)]⟩

namespace Slot

def index : Slot → Nat
  | state => 0
  | message => 1
  | sequence => 2
  | owner => 3

/-- The key of the slot, a number in one byte. -/
def key : Slot → AlignedValue
  | state => ⟨[⟨.bytes 1, [], by decide⟩]⟩
  | message => ⟨[⟨.bytes 1, [1], by decide⟩]⟩
  | sequence => ⟨[⟨.bytes 1, [2], by decide⟩]⟩
  | owner => ⟨[⟨.bytes 1, [3], by decide⟩]⟩

/-- What stands in the slot. -/
def descriptor : Slot → Descriptor
  | state => .enum 1 1 (some stateClass)
  | message => .maybe .text
  | sequence => .uint64
  | owner => .bytes32

/-- Copies the root, goes to the slot and reads it. -/
def readProgram (s : Slot) (cached : Bool) : Program :=
  .ofInstrs [.dup 0, .idx false false [.literal s.key], .popeq cached none]

variable [Memory]

/-- Puts a value into the slot of the root on the stack. -/
def writeProgram (cfg : Config) (s : Slot) (value : Datum) : Except Fault Program := do
  let key ← Tree.makeCell cfg s.key
  let v ← s.descriptor.aligned value
  let cell ← Tree.makeCell cfg v
  pure (.ofInstrs [.push false key, .push true cell, .ins false 1])

/-- Adds to the number in the slot. -/
def addProgram (s : Slot) (amount : Nat) : Program :=
  .ofInstrs [.idx false true [.literal s.key], .addi amount, .ins true 1]

def read (cfg : Config) (s : Slot) (cached : Bool) : Call Datum := do
  match ← Call.query cfg (s.readProgram cached) with
  | some v => MonadExcept.ofExcept (s.descriptor.fromAligned v)
  | none => throw (.slotUnread s.index)

def write (cfg : Config) (s : Slot) (value : Datum) : Call Unit := do
  let program ← MonadExcept.ofExcept (s.writeProgram cfg value)
  let _ ← Call.query cfg program

def add (cfg : Config) (s : Slot) (amount : Nat) : Call Unit := do
  let _ ← Call.query cfg (s.addProgram amount)

end Slot

end AlignedLedger.Board
