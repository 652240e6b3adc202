import AlignedLedger.Bytes.LittleEndian
import AlignedLedger.Datum.Coerce

/-! Putting segments into slots, numbers among them, and reading atoms and aligned values out of
loosely typed data. -/

namespace AlignedLedger

/-- A number as a segment. -/
def segmentOfInt (i : Int) : Except Fault Bytes :=
  match i with
  | .ofNat n => .ok (LittleEndian.ofNat n)
  | .negSucc _ => .error .negativeInteger

namespace Atom

/-- An atom of a kind with a length; only byte slots carry one. -/
def make (kindName : String) (length : Int) : Except Fault Atom :=
  if kindName = "bytes" then
    match length with
    | .ofNat n => .ok (.bytes n)
    | .negSucc _ => .error .atomLengthNegative
  else if length ≠ 0 then .error (.atomLengthForbidden kindName)
  else if kindName = "field" then .ok .field
  else .ok .compress

def isKindName (s : String) : Bool := s = "bytes" || s = "field" || s = "compress"

def ofPair (kind length : Datum) : Except Fault Atom :=
  match kind with
  | .text s => if isKindName s then length.toInt >>= make s else .error (.unknownAtomKind kind)
  | _ => .error (.unknownAtomKind kind)

def ofDatum (d : Datum) : Except Fault Atom :=
  match d.sequence? with
  | some [kind, length] => ofPair kind length
  | _ => .error (.badAtom d)

end Atom

namespace Slot

/-- Brings a segment into the form the slot keeps; one that stays too wide is refused. -/
def ofSegment (a : Atom) (segment : Bytes) : Except Fault Slot :=
  let s := a.normalize segment
  if h : a.Holds s then .ok ⟨a, s, h⟩ else .error (.segmentTooWide s.length a)

end Slot

namespace Atom

/-- The segment that the slot would keep. -/
def checkSegment (a : Atom) (segment : Bytes) : Except Fault Bytes :=
  (Slot.ofSegment a segment).map Slot.segment

/-- A segment handed in as a datum has to be a byte string. -/
def checkDatum (a : Atom) (d : Datum) : Except Fault Bytes :=
  match d.bytes? with
  | some b => a.checkSegment b
  | none => .error (.segmentNotBytes d)

end Atom

namespace AlignedValue

def ofSegments (segments : List Bytes) (alignment : Alignment) : Except Fault AlignedValue :=
  if segments.length = alignment.length then
    ((segments.zip alignment).mapM fun p => Slot.ofSegment p.2 p.1).map AlignedValue.mk
  else .error (.segmentCount segments.length alignment.length)

/-- The number in the only slot, if there is one slot and it holds a number. -/
def toNat? (v : AlignedValue) : Option Nat :=
  match v.slots with
  | [s] => s.atom.width?.map fun _ => LittleEndian.toNat s.segment
  | _ => none

def toNat (v : AlignedValue) : Except Fault Nat :=
  match v.toNat? with
  | some n => .ok n
  | none => .error (.notNumeric v.alignment)

variable [Memory]

def ofPair (segments atoms : Datum) : Except Fault AlignedValue := do
  let segments ← segments.elements >>= List.mapM Datum.toBytes
  let alignment ← atoms.elements >>= List.mapM Atom.ofDatum
  ofSegments segments alignment

def ofDatum (d : Datum) : Except Fault AlignedValue :=
  match d.sequence? with
  | some [segments, atoms] => ofPair segments atoms
  | _ => .error (.badAlignedValue d)

end AlignedValue

end AlignedLedger
