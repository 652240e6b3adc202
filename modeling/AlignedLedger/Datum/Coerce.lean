import AlignedLedger.Memory
import AlignedLedger.Text.Numeral

/-! Readings of loosely typed data as a truth value, an integer, a byte string or a sequence. -/

namespace AlignedLedger.Datum

/-- Whole numbers, the whole part of fractions, and the text of a decimal number. -/
def toInt : Datum → Except Fault Int
  | text s => ofText s
  | broken _ => .error .badValue
  | bytes b => ofText (asciiText b)
  | buffer b => ofText (asciiText b)
  | float (.finite m c e) => .ok (Binary.truncate m c e)
  | float (.infinite _) => .error .tooLarge
  | float .undefined => .error .badValue
  | d => match d.index? with
    | some i => .ok i
    | none => .error .wrongType
where
  ofText (s : String) : Except Fault Int :=
    match Text.integer? s with
    | some i => .ok i
    | none => .error .badValue
  /-- A byte beyond ASCII becomes a letter that no number holds. -/
  asciiText (b : Bytes) : String :=
    String.ofList (b.map fun x => if x < 128 then Char.ofNat x.toNat else '?')

def toByte (d : Datum) : Except Fault UInt8 :=
  match d.index? with
  | some i => if 0 ≤ i ∧ i < 256 then .ok (UInt8.ofNat i.toNat) else .error .badValue
  | none => .error .wrongType

variable [Memory]

/-- A byte string as it is, the bytes of a sequence of numbers, or as many zeros as a number says. -/
def toBytes (d : Datum) : Except Fault Bytes :=
  match d with
  | bytes b => .ok b
  | buffer b => .ok b
  | text _ => .error .wrongType
  | broken _ => .error .wrongType
  | _ => match d.index?, d.elements? with
    | some i, _ => zerosOf i
    | none, some xs => xs.mapM toByte
    | none, none => .error .wrongType
where
  zerosOf (i : Int) : Except Fault Bytes := do
    if i < 0 then throw (if Memory.largestSize + 1 < i.natAbs then .tooLarge else .badValue)
    Memory.request i.toNat
    pure (Bytes.zeros i.toNat)

def elements (d : Datum) : Except Fault (List Datum) :=
  match d.elements? with
  | some xs => .ok xs
  | none => .error .wrongType

end AlignedLedger.Datum
