import AlignedLedger.Binary
import AlignedLedger.Bytes
import AlignedLedger.Text.Broken

/-! Loosely typed data: what callers hand in before a descriptor or a reader has looked at it, and
what comes back. -/

namespace AlignedLedger

inductive Datum where
  | null
  | bool (b : Bool)
  | int (i : Int)
  | float (x : Binary)
  | text (s : String)
  /-- Text without a UTF-8 form; otherwise like `text`. -/
  | broken (t : Text.Broken)
  | bytes (b : Bytes)
  /-- A byte string that its owner may still change; otherwise like `bytes`. -/
  | buffer (b : Bytes)
  | list (items : List Datum)
  | tuple (items : List Datum)
  | dict (entries : List (Datum × Datum))
  | maybe (isSome value : Datum)
  | either (isLeft left right : Datum)
  /-- A member of a named enumeration, usable as its ordinal. -/
  | member (cls name : String) (ordinal : Int)

namespace Datum

/-- The name of a datum's kind in messages. -/
def kindName : Datum → String
  | null => "NoneType"
  | bool _ => "bool"
  | int _ => "int"
  | float _ => "float"
  | text _ => "str"
  | broken _ => "str"
  | bytes _ => "bytes"
  | buffer _ => "bytearray"
  | list _ => "list"
  | tuple _ => "tuple"
  | dict _ => "dict"
  | maybe .. => "Maybe"
  | either .. => "Either"
  | member cls .. => cls

def isNull : Datum → Bool
  | null => true
  | _ => false

/-- The content of a byte string of either kind. -/
def bytes? : Datum → Option Bytes
  | bytes b => some b
  | buffer b => some b
  | _ => none

/-- The codes of a text of either kind. -/
def codes? : Datum → Option (List Text.Code)
  | text s => some (Text.codes s)
  | broken t => some t.codes
  | _ => none

/-- The text of these codes, of the kind that has room for them. -/
def ofCodes (cs : List Text.Code) : Datum :=
  if h : cs.any Text.Code.isHalf then broken ⟨cs, h⟩
  else text (String.ofList (cs.filterMap Text.Code.char?))

/-- The number, for those that count as integers; truth values do not. -/
def integer? : Datum → Option Int
  | int i => some i
  | member _ _ i => some i
  | _ => none

/-- The number, with truth values as zero and one. -/
def index? : Datum → Option Int
  | bool b => some b.toNat
  | d => d.integer?

/-- The number, of all that are numbers. -/
def number? : Datum → Option Binary
  | float x => some x
  | d => d.index?.map Binary.ofInt

/-- Zero, nothing and all that is empty count as false. -/
def truth : Datum → Bool
  | null => false
  | bool b => b
  | int i => i ≠ 0
  | float x => !x.isZero
  | text s => !s.isEmpty
  | broken _ => true
  | bytes b => !b.isEmpty
  | buffer b => !b.isEmpty
  | list xs => !xs.isEmpty
  | tuple xs => !xs.isEmpty
  | dict es => !es.isEmpty
  | maybe .. => true
  | either .. => true
  | member _ _ i => i ≠ 0

/-- The things met when going through a datum, for those that can be gone through. -/
def elements? : Datum → Option (List Datum)
  | list xs => some xs
  | tuple xs => some xs
  | dict es => some (es.map Prod.fst)
  | text s => some (s.toList.map fun c => text (String.singleton c))
  | broken t => some (t.codes.map fun c => ofCodes [c])
  | bytes b => some (b.map fun x => int x.toNat)
  | buffer b => some (b.map fun x => int x.toNat)
  | _ => none

/-- The elements of the two kinds of sequences that may stand for a list in data. -/
def sequence? : Datum → Option (List Datum)
  | list xs => some xs
  | tuple xs => some xs
  | _ => none

end Datum

end AlignedLedger
