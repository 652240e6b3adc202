import AlignedLedger.Bytes.Utf8
import AlignedLedger.Descriptor

/-! From wire segments back to values. The reader goes over the segments from left to right; a
failure leaves it where it stopped. Slots of absent payloads and of sides that are not selected are
passed over without a look at what they hold. -/

namespace AlignedLedger

/-- What reads off the front of the segments that are left. -/
abbrev SegmentReader := EStateM Fault (List Datum)

namespace SegmentReader

def take (a : Atom) : SegmentReader Bytes
  | [] => .error (.outOfSegments a) []
  | d :: rest => match a.checkDatum d with
    | .ok s => .ok s rest
    | .error e => .error e (d :: rest)

def skip (n : Nat) : SegmentReader Unit := fun segments =>
  if n ≤ segments.length then .ok () (segments.drop n)
  else .error (.cannotSkip n segments.length) segments

def takeNat (a : Atom) : SegmentReader Nat := do
  let s ← take a
  pure (LittleEndian.toNat s)

/-- The value of a run of `n` equal readings. -/
def times (n : Nat) (read : SegmentReader Datum) : SegmentReader (List Datum) :=
  match n with
  | 0 => pure []
  | n + 1 => do
    let d ← read
    let ds ← times n read
    pure (d :: ds)

end SegmentReader

namespace Descriptor

open SegmentReader

def skip (d : Descriptor) : SegmentReader Unit := SegmentReader.skip d.alignment.length

def readRange (name : Label) (max width : Nat) : SegmentReader Nat := do
  let n ← takeNat (.bytes width)
  if max < n then throw (.exceedsRange n name)
  pure n

def readEnum (name : Label) (max width : Nat) (cls : Option EnumClass) : SegmentReader Datum := do
  let n ← readRange name max width
  match cls with
  | none => pure (.int n)
  | some c => match c.member? n with
    | some d => pure d
    | none => throw (.notAMember n name)

def readBool : SegmentReader Bool := do
  let s ← take (.bytes 1)
  if s = [] then pure false
  else if s = [1] then pure true
  else throw (.invalidBoolean s)

def readText : SegmentReader Datum := do
  let s ← take .compress
  match Utf8.decode? s with
  | some t => pure (.text t)
  | none => throw .invalidUtf8

variable [Memory]

mutual

def read : Descriptor → SegmentReader Datum
  | uint max w => do
    let n ← readRange (uintName max) max w
    pure (.int n)
  | enum max w cls => readEnum (enumName max cls) max w cls
  | bytes n => do
    let s ← take (.bytes n)
    MonadExcept.ofExcept (Memory.request n)
    pure (.bytes (s.padTo n))
  | bool => do
    let b ← readBool
    pure (.bool b)
  | text => readText
  | field => do
    let n ← takeNat .field
    pure (.int n)
  | vector n e => do
    let xs ← times n e.read
    pure (.tuple xs)
  | maybe p => do
    if ← readBool then
      let x ← p.read
      pure (.maybe (.bool true) x)
    else
      p.skip
      let x ← MonadExcept.ofExcept p.placeholder
      pure (.maybe (.bool false) x)
  | either l r => do
    if ← readBool then
      let x ← l.read
      r.skip
      let y ← MonadExcept.ofExcept r.placeholder
      pure (.either (.bool true) x y)
    else
      l.skip
      let x ← MonadExcept.ofExcept l.placeholder
      let y ← r.read
      pure (.either (.bool false) x y)
  | struct _ fs => do
    let es ← readFields fs
    pure (.dict es)

def readFields : List (String × Descriptor) → SegmentReader (List (Datum × Datum))
  | [] => pure []
  | (k, d) :: fs => do
    let v ← d.read
    let es ← readFields fs
    pure ((.text k, v) :: es)

end

/-- Reads a value that takes up all of the segments. -/
def decodeData (d : Descriptor) (segments : List Datum) : Except Fault Datum :=
  match d.read segments with
  | .ok v [] => .ok v
  | .ok _ rest => .error (.trailingSegments rest.length d.name)
  | .error e _ => .error e

def decode (d : Descriptor) (segments : List Bytes) : Except Fault Datum :=
  d.decodeData (segments.map .bytes)

def fromAligned (d : Descriptor) (v : AlignedValue) : Except Fault Datum :=
  if v.alignment = d.alignment then d.decode v.segments
  else .error (.alignmentMismatch d.name d.alignment.length v.alignment)

end Descriptor

end AlignedLedger
