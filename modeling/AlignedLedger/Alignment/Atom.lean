import AlignedLedger.Bytes
import AlignedLedger.Cbor.Item

/-! Alignment atoms: the slots that values are laid out in. -/

namespace AlignedLedger

/-- A slot of a fixed number of bytes, a field element of at most 32 bytes, or a payload of any
length. -/
inductive Atom where
  | bytes (length : Nat)
  | field
  | compress
deriving DecidableEq

abbrev Alignment := List Atom

namespace Atom

def fieldWidth : Nat := 32

/-- The largest segment the slot takes; a payload has no bound. -/
def width? : Atom → Option Nat
  | bytes n => some n
  | field => some fieldWidth
  | compress => none

def kindName : Atom → String
  | bytes _ => "bytes"
  | field => "field"
  | compress => "compress"

/-- The length that is written with the kind. -/
def length : Atom → Nat
  | bytes n => n
  | _ => 0

def name : Atom → String
  | bytes n => "bytes" ++ toString n
  | a => a.kindName

def toItem (a : Atom) : Cbor.Item := .array [.text a.kindName, .nat a.length]

/-- The form in which a segment is kept: numbers lose the zeros at their end, payloads nothing. -/
def normalize (a : Atom) (segment : Bytes) : Bytes :=
  match a.width? with
  | some _ => segment.stripZeros
  | none => segment

/-- The segments a slot can hold. -/
def Holds (a : Atom) (segment : Bytes) : Prop :=
  match a.width? with
  | some w => segment.length ≤ w ∧ segment.Trimmed
  | none => True

instance (a : Atom) (segment : Bytes) : Decidable (a.Holds segment) := by
  unfold Holds
  split <;> infer_instance

end Atom

namespace Alignment

def text (a : Alignment) : String := "[" ++ String.intercalate ", " (a.map Atom.name) ++ "]"

end Alignment

end AlignedLedger
