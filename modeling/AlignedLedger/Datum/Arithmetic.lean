import AlignedLedger.Memory

/-! Multiplying and adding loosely typed data. Truth values count as zero and one, a number of times a
text or a sequence repeats it, and two of one kind are joined. -/

namespace AlignedLedger.Datum

/-- A whole number as a fraction, if it is not too large for one. -/
def toFloat (i : Int) : Except Fault Binary :=
  match Binary.ofInt? i with
  | some x => .ok x
  | none => .error .tooLarge

/-- So many copies of a sequence in a row, as far as there is memory for them. -/
def copies [Memory] {α : Type} (xs : List α) (n : Int) : Except Fault (List α) := do
  Memory.request n.toNat
  Memory.request (xs.length * n.toNat)
  pure (List.replicate n.toNat xs).flatten

def times [Memory] (d : Datum) (n : Int) : Except Fault Datum :=
  match d with
  | float x => (toFloat n).map fun y => .float (x.times y)
  | text s => (copies s.toList n).map fun cs => .text (String.ofList cs)
  | broken t => (copies t.codes n).map ofCodes
  | bytes b => (copies b n).map .bytes
  | buffer b => (copies b n).map .buffer
  | list xs => (copies xs n).map .list
  | tuple xs => (copies xs n).map .tuple
  | _ => match d.index? with
    | some i => .ok (.int (i * n))
    | none => .error .wrongType

/-- A number as a fraction. -/
def float? : Datum → Option (Except Fault Binary)
  | float x => some (.ok x)
  | d => d.index?.map toFloat

def plus (a b : Datum) : Except Fault Datum :=
  match a.index?, b.index? with
  | some i, some k => .ok (.int (i + k))
  | _, _ => match a.float?, b.float? with
    | some x, some y => do
      let x ← x
      let y ← y
      pure (.float (x.plus y))
    | _, _ => match a, b with
      | text s, text t => .ok (.text (s ++ t))
      | text s, broken t => .ok (ofCodes (Text.codes s ++ t.codes))
      | broken s, text t => .ok (ofCodes (s.codes ++ Text.codes t))
      | broken s, broken t => .ok (ofCodes (s.codes ++ t.codes))
      | bytes s, bytes t => .ok (.bytes (s ++ t))
      | bytes s, buffer t => .ok (.bytes (s ++ t))
      | buffer s, bytes t => .ok (.buffer (s ++ t))
      | buffer s, buffer t => .ok (.buffer (s ++ t))
      | list xs, list ys => .ok (.list (xs ++ ys))
      | tuple xs, tuple ys => .ok (.tuple (xs ++ ys))
      | _, _ => .error .wrongType

end AlignedLedger.Datum
