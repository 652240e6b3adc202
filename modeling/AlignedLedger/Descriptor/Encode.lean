import AlignedLedger.Alignment.Room
import AlignedLedger.Bytes.Sha256
import AlignedLedger.Bytes.Utf8
import AlignedLedger.Datum.Equality
import AlignedLedger.Descriptor

/-! From values to wire segments, one segment a slot. Composites hand their parts on from left to
right. -/

namespace AlignedLedger.Descriptor

/-- The name is written out in any case, in view of a complaint. -/
def encodeInteger (name : Label) (max : Nat) (v : Datum) : Except Fault (List Bytes) := do
  name.spell
  match v.integer? with
  | none => throw (.notAnInteger name v)
  | some i =>
    if 0 ≤ i ∧ i ≤ max then pure [LittleEndian.ofNat i.toNat] else throw (.outOfRange i name)

def encodeField (v : Datum) : Except Fault (List Bytes) :=
  match v.integer? with
  | none => .error (.notAnInteger "Field" v)
  | some i =>
    if 0 ≤ i ∧ i < (1 <<< 256 : Nat) then .ok [LittleEndian.ofNat i.toNat] else .error (.notAFieldElement i)

variable [Memory]

def encodeBytes (n : Nat) (v : Datum) : Except Fault (List Bytes) :=
  match v.bytes? with
  | none => .error (.wrongShape (bytes n).name "bytes" v)
  | some b => if b.length = n then (Memory.request n).map fun _ => [b.stripZeros]
    else .error (.byteCount (bytes n).name n b.length)

def flag (b : Bool) : Bytes := if b then [1] else []

/-- The segments of all elements of a list, in order. -/
def encodeEach (encode : Datum → Except Fault (List Bytes)) : List Datum → Except Fault (List Bytes)
  | [] => .ok []
  | v :: vs => do
    let front ← encode v
    let rest ← encodeEach encode vs
    pure (front ++ rest)

/-- The elements of what may stand for a vector: any collection but text and bytes. -/
def vectorItems? : Datum → Option (List Datum)
  | .list xs => some xs
  | .tuple xs => some xs
  | .dict es => some (es.map Prod.fst)
  | _ => none

/-- Reading gives back only the placeholder for slots that it skips, so nothing else may be there. Here too
the name is written out in any case. -/
def requirePlaceholder (d : Descriptor) (v : Datum) (slot : Label) : Except Fault Unit := do
  slot.spell
  let p ← d.placeholder
  if v.same p then pure () else .error (.notDefault slot p v)

/-- The keys of the dict are the names of the fields. -/
def namesMatch (names : List String) (keys : List Datum) : Bool :=
  keys.all (fun k => match k with | .text s => names.contains s | _ => false) &&
    names.all fun s => keys.any (Datum.same (.text s))

/-- The complaint about a dict with other keys than the fields; it lists both in order. -/
def refuseNames (name : String) (names : List String) (keys : List Datum) : Fault :=
  match Datum.sorted? keys with
  | some got => .fieldNames name (names.mergeSort fun s t => !decide (t < s)) got
  | none => .wrongType

mutual

def encode : Descriptor → Datum → Except Fault (List Bytes)
  | uint max _, v => encodeInteger (uintName max) max v
  | enum max _ cls, v => encodeInteger (enumName max cls) max v
  | bytes n, v => encodeBytes n v
  | bool, v => match v with
    | .bool b => .ok [flag b]
    | _ => .error (.wrongShape bool.name "bool" v)
  | text, v => match v with
    | .text s => .ok [Utf8.encode s]
    | .broken _ => .error .unencodable
    | _ => .error (.wrongShape text.name "str" v)
  | field, v => encodeField v
  | vector n e, v => match vectorItems? v with
    | none => .error (.wrongShape (vector n e).name "a sequence" v)
    | some xs =>
      if xs.length = n then encodeEach e.encode xs
      else .error (.itemCount (vector n e).name n xs.length)
  | maybe p, v => match v with
    | .maybe isSome x => do
      if !isSome.truth then requirePlaceholder p x ((maybe p).name ++ " absent payload")
      let payload ← p.encode x
      pure (flag isSome.truth :: payload)
    | _ => .error (.wrongShape (maybe p).name "a Maybe" v)
  | either l r, v => match v with
    | .either isLeft x y => do
      if isLeft.truth then requirePlaceholder r y ((either l r).name ++ " unselected right")
      else requirePlaceholder l x ((either l r).name ++ " unselected left")
      let left ← l.encode x
      let right ← r.encode y
      pure (flag isLeft.truth :: (left ++ right))
    | _ => .error (.wrongShape (either l r).name "an Either" v)
  | struct name fs, v => match v with
    | .dict es =>
      if namesMatch (fs.map Prod.fst) (es.map Prod.fst) then encodeFields fs es
      else .error (refuseNames name (fs.map Prod.fst) (es.map Prod.fst))
    | _ => .error (.wrongShape name "a dict" v)

def encodeFields : List (String × Descriptor) → List (Datum × Datum) → Except Fault (List Bytes)
  | [], _ => .ok []
  | (k, d) :: fs, es => match Datum.find? k es with
    | none => .error .missingKey
    | some v => do
      let front ← d.encode v
      let rest ← encodeFields fs es
      pure (front ++ rest)

end

def aligned (d : Descriptor) (v : Datum) : Except Fault AlignedValue := do
  let segments ← d.encode v
  AlignedValue.ofSegments segments d.alignment

/-- The hash of a value under a descriptor, taken of its binary form. -/
def persistentHash (d : Descriptor) (v : Datum) : Except Fault Bytes := do
  let a ← d.aligned v
  let b ← a.layOut
  pure (sha256 b)

end AlignedLedger.Descriptor
