import AlignedLedger.Alignment.Segment

/-! Type descriptors: which values a piece of wire data can hold, and in which slots it stands. The
slots depend on the descriptor alone, never on a value. -/

namespace AlignedLedger

/-- A named enumeration with its members and their ordinals, in the order of declaration. -/
structure EnumClass where
  name : String
  members : List (String × Int)

namespace EnumClass

/-- The first member with this ordinal. -/
def member? (c : EnumClass) (ordinal : Int) : Option Datum :=
  (c.members.find? fun m => m.2 = ordinal).map fun m => .member c.name m.1 m.2

end EnumClass

inductive Descriptor where
  | uint (max width : Nat)
  /-- Stored as its ordinal; with a class, what is read has to be one of its members. -/
  | enum (max width : Nat) (cls : Option EnumClass)
  | bytes (length : Nat)
  | bool
  | text
  | field
  | vector (count : Nat) (element : Descriptor)
  /-- A flag, then the payload, whose slots are there also when it is absent. -/
  | maybe (payload : Descriptor)
  /-- A flag, then both sides. -/
  | either (left right : Descriptor)
  | struct (name : String) (fields : List (String × Descriptor))

namespace Descriptor

def uintName (max : Nat) : Label := "Uint<" ++ Label.number max ++ ">"

def enumName (max : Nat) : Option EnumClass → Label
  | some c => c.name
  | none => "Enum<" ++ Label.number max ++ ">"

@[simp] theorem isWritable_uintName (max : Nat) :
    (uintName max).isWritable = Text.isWritable max := by
  simp [uintName]

@[simp] theorem isWritable_enumName_none (max : Nat) :
    (enumName max none).isWritable = Text.isWritable max := by
  simp [enumName]

@[simp] theorem isWritable_enumName_some (max : Nat) (c : EnumClass) :
    (enumName max (some c)).isWritable = true := rfl

def name : Descriptor → Label
  | uint max _ => uintName max
  | enum max _ cls => enumName max cls
  | bytes n => "Bytes<" ++ Label.number n ++ ">"
  | bool => "Boolean"
  | text => "Opaque<string>"
  | field => "Field"
  | vector n e => "Vector<" ++ Label.number n ++ ", " ++ e.name ++ ">"
  | maybe p => "Maybe<" ++ p.name ++ ">"
  | either l r => "Either<" ++ l.name ++ ", " ++ r.name ++ ">"
  | struct name _ => name

mutual

def alignment : Descriptor → Alignment
  | uint _ w => [.bytes w]
  | enum _ w _ => [.bytes w]
  | bytes n => [.bytes n]
  | bool => [.bytes 1]
  | text => [.compress]
  | field => [.field]
  | vector n e => (List.replicate n e.alignment).flatten
  | maybe p => .bytes 1 :: p.alignment
  | either l r => .bytes 1 :: (l.alignment ++ r.alignment)
  | struct _ fs => fieldAlignment fs

def fieldAlignment : List (String × Descriptor) → Alignment
  | [] => []
  | (_, d) :: fs => d.alignment ++ fieldAlignment fs

end

/-- The bound of an integer has to fit the slot, and the slot must not be empty. -/
def checkRange (max width : Int) : Except Fault (Nat × Nat) :=
  if width ≤ 0 then .error .integerWidth
  else match max with
    | .ofNat m =>
      if LittleEndian.Fits width.toNat m then .ok (m, width.toNat)
      else .error (.maxValueTooWide max width)
    | .negSucc _ => .error (.maxValueTooWide max width)

def makeUint (max width : Int) : Except Fault Descriptor :=
  (checkRange max width).map fun r => uint r.1 r.2

def makeEnum (max width : Int) (cls : Option EnumClass) : Except Fault Descriptor :=
  (checkRange max width).map fun r => enum r.1 r.2 cls

def makeBytes : Int → Except Fault Descriptor
  | .ofNat n => .ok (bytes n)
  | .negSucc _ => .error .bytesLengthNegative

variable [Memory]

/-- The slots of all elements are laid out at once, a word for each. -/
def requestSlots (count atoms : Nat) : Except Fault Unit :=
  if Memory.largestSize < count then .error .tooLarge
  else if Memory.available < 8 * (count * atoms) then .error .outOfMemory
  else .ok ()

def makeVector (count : Int) (element : Descriptor) : Except Fault Descriptor :=
  match count with
  | .ofNat n => do
    requestSlots n element.alignment.length
    pure (vector n element)
  | .negSucc _ => .error .vectorCountNegative

def makeStruct (name : String) (fields : List (String × Descriptor)) : Except Fault Descriptor :=
  if (fields.map Prod.fst).Nodup then .ok (struct name fields) else .error (.duplicateFields name)

mutual

/-- The descriptors that the constructors above let pass. -/
def WellFormed : Descriptor → Prop
  | uint max w => 0 < w ∧ LittleEndian.Fits w max
  | enum max w _ => 0 < w ∧ LittleEndian.Fits w max
  | vector _ e => e.WellFormed
  | maybe p => p.WellFormed
  | either l r => l.WellFormed ∧ r.WellFormed
  | struct _ fs => (fs.map Prod.fst).Nodup ∧ FieldsWellFormed fs
  | _ => True

def FieldsWellFormed : List (String × Descriptor) → Prop
  | [] => True
  | (_, d) :: fs => d.WellFormed ∧ FieldsWellFormed fs

end

def uint8 : Descriptor := uint 255 1

def uint16 : Descriptor := uint 65535 2

def uint64 : Descriptor := uint (1 <<< 64 - 1) 8

def uint128 : Descriptor := uint (1 <<< 128 - 1) 16

def bytes32 : Descriptor := bytes 32

/-- A list of `n` equal values; none is needed for an empty list. -/
def repeatValue (n : Nat) (one : Except Fault Datum) : Except Fault (List Datum) :=
  match n with
  | 0 => .ok []
  | n + 1 => do
    let d ← one
    let ds ← repeatValue n one
    pure (d :: ds)

mutual

/-- The value that stands in for an absent payload and for a side that is not selected. An
enumeration has one only if a member has the ordinal zero. -/
def placeholder : Descriptor → Except Fault Datum
  | uint .. => .ok (.int 0)
  | enum _ _ none => .ok (.int 0)
  | enum _ _ (some c) => match c.member? 0 with
    | some d => .ok d
    | none => .error .badValue
  | bytes n => (Memory.request n).map fun _ => .bytes (Bytes.zeros n)
  | bool => .ok (.bool false)
  | text => .ok (.text "")
  | field => .ok (.int 0)
  | vector n e => (repeatValue n e.placeholder).map .tuple
  | maybe p => p.placeholder.map (.maybe (.bool false))
  | either l r => do
    let x ← l.placeholder
    let y ← r.placeholder
    pure (.either (.bool true) x y)
  | struct _ fs => (fieldPlaceholders fs).map .dict

def fieldPlaceholders : List (String × Descriptor) → Except Fault (List (Datum × Datum))
  | [] => .ok []
  | (k, d) :: fs => do
    let v ← d.placeholder
    let es ← fieldPlaceholders fs
    pure ((.text k, v) :: es)

end

/-- An absent value of this payload. -/
def absent (payload : Descriptor) : Except Fault Datum := (maybe payload).placeholder

end Descriptor

/-- A value that is there. -/
def Datum.present (d : Datum) : Datum := .maybe (.bool true) d

end AlignedLedger
