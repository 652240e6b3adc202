import AlignedLedger.Alignment.Atom
import AlignedLedger.Bytes.Hex
import AlignedLedger.Bytes.Leb128
import AlignedLedger.Datum.Written
import AlignedLedger.Json

/-! Aligned values: segments together with the slots that hold them, their binary form and their
order. -/

namespace AlignedLedger

structure Slot where
  atom : Atom
  segment : Bytes
  holds : atom.Holds segment
deriving DecidableEq

namespace Slot

/-- A number fills its slot with zeros; a payload stands behind its length. -/
def binary (s : Slot) : Bytes :=
  match s.atom.width? with
  | some w => s.segment.padTo w
  | none => leb128 s.segment.length ++ s.segment

end Slot

structure AlignedValue where
  slots : List Slot
deriving DecidableEq

namespace AlignedValue

def empty : AlignedValue := ⟨[]⟩

def segments (v : AlignedValue) : List Bytes := v.slots.map Slot.segment

def alignment (v : AlignedValue) : Alignment := v.slots.map Slot.atom

def concat (vs : List AlignedValue) : AlignedValue := ⟨vs.flatMap slots⟩

/-- All slots one after the other. This is what hashes are taken of. -/
def binary (v : AlignedValue) : Bytes := v.slots.flatMap Slot.binary

def atomNames (v : AlignedValue) : List String := v.alignment.map Atom.name

/-- By binary form, then by the names of the atoms. -/
def order (v w : AlignedValue) : Ordering :=
  (compare v.binary w.binary).then (compare v.atomNames w.atomNames)

def toItem (v : AlignedValue) : Cbor.Item :=
  .array [.array (v.segments.map .bytes), .array (v.alignment.map Atom.toItem)]

def toJson (v : AlignedValue) : Json :=
  .object [("value", .array (v.segments.map fun s => .text (Hex.marked s))),
    ("alignment", .array (v.atomNames.map .text))]

/-- The value's fields as they appear in messages. -/
def written (v : AlignedValue) : String :=
  (Datum.dict [(.text "value", .list (v.segments.map fun s => .text (Hex.marked s))),
    (.text "alignment", .list (v.atomNames.map .text))]).written

end AlignedValue

end AlignedLedger
