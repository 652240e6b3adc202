import AlignedLedger.Bytes.BigEndian
import AlignedLedger.Bytes.Utf8
import AlignedLedger.Cbor.Item

/-! Reading one item from the front of a byte string. Heads need not be the shortest, and arrays,
byte strings and texts may have an indefinite length; what follows the item is left alone. -/

namespace AlignedLedger.Cbor

/-- The first `n` bytes and the rest, if there are so many. -/
def takeBytes? (n : Nat) (b : Bytes) : Option (Bytes × Bytes) :=
  let front := b.take n
  if front.length = n then some (front, b.drop n) else none

/-- The argument of a head, where `none` stands for an indefinite length. -/
inductive Argument where
  | definite (n : Nat)
  | indefinite

/-- The argument that the low five bits of a head announce. -/
def argument? (low : Nat) (b : Bytes) : Option (Argument × Bytes) :=
  let wide (width : Nat) : Option (Argument × Bytes) :=
    (takeBytes? width b).map fun p => (.definite (BigEndian.toNat p.1), p.2)
  if low < 24 then some (.definite low, b)
  else if low = 24 then wide 1
  else if low = 25 then wide 2
  else if low = 26 then wide 4
  else if low = 27 then wide 8
  else if low = 31 then some (.indefinite, b)
  else none

structure Head where
  major : Nat
  argument : Argument

def head? : Bytes → Option (Head × Bytes)
  | [] => none
  | b :: rest =>
    (argument? (b.toNat % 32) rest).map fun p => (⟨b.toNat / 32, p.1⟩, p.2)

/-- The byte that ends an item of indefinite length. -/
def breakByte : UInt8 := 0xff

/-- Strings of definite length and of one major type, up to the break. -/
def chunks? (major : Nat) : Nat → Bytes → Option (List Bytes × Bytes)
  | 0, _ => none
  | fuel + 1, b =>
    if b.head? = some breakByte then some ([], b.tail)
    else match head? b with
      | some (⟨m, .definite n⟩, rest) =>
        if m = major then do
          let (chunk, rest) ← takeBytes? n rest
          let (more, rest) ← chunks? major fuel rest
          pure (chunk :: more, rest)
        else none
      | _ => none

/-- The content of a string whose head has been read, in chunks. -/
def content? (major : Nat) (a : Argument) (b : Bytes) : Option (List Bytes × Bytes) :=
  match a with
  | .definite n => (takeBytes? n b).map fun p => ([p.1], p.2)
  | .indefinite => chunks? major (b.length + 1) b

/-- The two truth values and null, each a head of its own. -/
def simple? : Bytes → Option (Item × Bytes)
  | 0xf4 :: rest => some (.bool false, rest)
  | 0xf5 :: rest => some (.bool true, rest)
  | 0xf6 :: rest => some (.null, rest)
  | _ => none

/-- A tagged byte string as a big number; other tags are refused. -/
def tagged? (tag : Argument) (item : Item) : Option Item :=
  match tag, item with
  | .definite 2, .bytes b => some (.int (BigEndian.toNat b))
  | .definite 3, .bytes b => some (.int (-1 - (BigEndian.toNat b : Int)))
  | _, _ => none

mutual

/-- An item and what follows it. The first number bounds the steps. -/
def item? : Nat → Bytes → Option (Item × Bytes)
  | 0, _ => none
  | fuel + 1, b => simple? b <|> do
    let (⟨major, a⟩, rest) ← head? b
    match major, a with
    | 0, .definite n => pure (.int n, rest)
    | 1, .definite n => pure (.int (-1 - (n : Int)), rest)
    | 2, a =>
      let (parts, rest) ← content? 2 a rest
      pure (.bytes parts.flatten, rest)
    | 3, a =>
      let (parts, rest) ← content? 3 a rest
      let texts ← parts.mapM Utf8.decode?
      pure (.text (String.join texts), rest)
    | 4, .definite n =>
      let (xs, rest) ← items? fuel n rest
      pure (.array xs, rest)
    | 4, .indefinite =>
      let (xs, rest) ← itemsToBreak? fuel rest
      pure (.array xs, rest)
    | 5, .definite n =>
      let (es, rest) ← entries? fuel n rest
      pure (.map es, rest)
    | 5, .indefinite =>
      let (es, rest) ← entriesToBreak? fuel rest
      pure (.map es, rest)
    | 6, tag =>
      let (x, rest) ← item? fuel rest
      let y ← tagged? tag x
      pure (y, rest)
    | _, _ => none

def items? : Nat → Nat → Bytes → Option (List Item × Bytes)
  | _, 0, b => some ([], b)
  | 0, _ + 1, _ => none
  | fuel + 1, n + 1, b => do
    let (x, b) ← item? fuel b
    let (xs, b) ← items? fuel n b
    pure (x :: xs, b)

def itemsToBreak? : Nat → Bytes → Option (List Item × Bytes)
  | 0, _ => none
  | fuel + 1, b =>
    if b.head? = some breakByte then some ([], b.tail)
    else do
      let (x, b) ← item? fuel b
      let (xs, b) ← itemsToBreak? fuel b
      pure (x :: xs, b)

def entries? : Nat → Nat → Bytes → Option (List (Item × Item) × Bytes)
  | _, 0, b => some ([], b)
  | 0, _ + 1, _ => none
  | fuel + 1, n + 1, b => do
    let (k, b) ← item? fuel b
    let (v, b) ← item? fuel b
    let (es, b) ← entries? fuel n b
    pure ((k, v) :: es, b)

def entriesToBreak? : Nat → Bytes → Option (List (Item × Item) × Bytes)
  | 0, _ => none
  | fuel + 1, b =>
    if b.head? = some breakByte then some ([], b.tail)
    else do
      let (k, b) ← item? fuel b
      let (v, b) ← item? fuel b
      let (es, b) ← entriesToBreak? fuel b
      pure ((k, v) :: es, b)

end

/-- Each step reads a byte or goes one level down to where one is read. -/
def decode? (b : Bytes) : Option Item := (item? (2 * b.length + 2) b).map Prod.fst

end AlignedLedger.Cbor
