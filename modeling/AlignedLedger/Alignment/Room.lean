import AlignedLedger.Memory

/-! The room that binary forms take up. It follows from the slots without the form being written. -/

namespace AlignedLedger

namespace Slot

def binaryLength (s : Slot) : Nat :=
  match s.atom.width? with
  | some w => max w s.segment.length
  | none => (leb128 s.segment.length).length + s.segment.length

theorem length_binary (s : Slot) : s.binary.length = s.binaryLength := by
  unfold binary binaryLength
  cases s.atom.width? with
  | none => simp
  | some w => exact Bytes.length_padTo w s.segment

end Slot

namespace AlignedValue

def binaryLength (v : AlignedValue) : Nat := v.slots.foldr (fun s n => s.binaryLength + n) 0

theorem length_binary (v : AlignedValue) : v.binary.length = v.binaryLength := by
  unfold binary binaryLength
  induction v.slots with
  | nil => rfl
  | cons s slots ih => simp [Slot.length_binary, ih]

variable [Memory]

/-- There is room for each slot and for all of them together. -/
def requestBinary (v : AlignedValue) : Except Fault Unit := do
  v.slots.forM fun s => Memory.request s.binaryLength
  Memory.request v.binaryLength

/-- The binary form, if there is room for it. -/
def layOut (v : AlignedValue) : Except Fault Bytes := do
  v.requestBinary
  pure v.binary

end AlignedValue

end AlignedLedger
