import AlignedLedger.Descriptor.Decode

/-! A cursor over wire segments that can also be moved back. In front of the first segment it counts
from the end: one step before the first stands the last, and behind the last the first one follows
again. A place that is too far ahead of that holds nothing. -/

namespace AlignedLedger

structure Cursor where
  segments : List Datum
  position : Int

namespace Cursor

def start (segments : List Datum) : Cursor := ⟨segments, 0⟩

def remaining (c : Cursor) : Int := c.segments.length - c.position

/-- The segments from the cursor on, if it has a place among them. -/
def ahead? (c : Cursor) : Option (List Datum) :=
  match c.position with
  | .ofNat n => some (c.segments.drop n)
  | .negSucc n =>
    if n < c.segments.length then some (c.segments.drop (c.segments.length - (n + 1)) ++ c.segments)
    else none

/-- Runs a reader that takes up `width` segments; it moves the cursor also when it fails. -/
def run {α : Type} (c : Cursor) (width : Nat) (read : SegmentReader α) : Except Fault α × Cursor :=
  let moved (rest : List Datum) : Cursor := { c with position := c.segments.length - rest.length }
  match c.ahead? with
  | some segments => match read segments with
    | .ok x rest => (.ok x, moved rest)
    | .error e rest => (.error e, moved rest)
  | none => match width, read [] with
    | 0, .ok x _ => (.ok x, c)
    | 0, .error e _ => (.error e, c)
    | _, _ => (.error .missingPosition, c)

def take (c : Cursor) (a : Atom) : Except Fault Bytes × Cursor := c.run 1 (SegmentReader.take a)

variable [Memory]

def read (c : Cursor) (d : Descriptor) : Except Fault Datum × Cursor :=
  c.run d.alignment.length d.read

/-- Moves the cursor, back for a number below zero; not beyond the last segment. -/
def skip (c : Cursor) (n : Int) : Except Fault Unit × Cursor :=
  if c.segments.length < c.position + n then (.error (.cannotSkip n.toNat c.remaining.toNat), c)
  else (.ok (), { c with position := c.position + n })

end Cursor

end AlignedLedger
