import AlignedLedger.Markup.Literal.Token

/-! Literals as the argument of an action in a mark: numbers, sums of a real and an imaginary number,
quoted text, truth values and nothing, and tuples, sets and tables of these. Only whether text is one
matters. -/

namespace AlignedLedger.Markup.Literal

/-- What matters of a literal for those that it is part of. -/
inductive Shape where
  | real
  | imaginary
  /-- A real number behind a plus or minus. -/
  | signedReal
  /-- Any other literal that can be the key of a table. -/
  | key
  /-- A set, a table, or a tuple that holds one. -/
  | keyless
  /-- The name for an empty set, no literal by itself. -/
  | setName
deriving DecidableEq

namespace Shape

def isLiteral (s : Shape) : Bool := s != setName

def isKey (s : Shape) : Bool := s != keyless && s != setName

def ofNumber (isImaginary : Bool) : Shape := if isImaginary then imaginary else real

/-- A plus or minus stands before a number that has none. -/
def signed? : Shape → Option Shape
  | real => some signedReal
  | imaginary => some key
  | _ => none

/-- The sum or difference of a real number and an imaginary one. -/
def sum? : Shape → Shape → Option Shape
  | real, imaginary | signedReal, imaginary => some key
  | _, _ => none

def tuple? (items : List Shape) : Option Shape :=
  if !items.all isLiteral then none else if items.all isKey then some key else some keyless

end Shape

/-- Reads a part of a literal off the front of its tokens. -/
abbrev Reader (α : Type) := List Token → Option (α × List Token)

/-- Items with commas between them up to a closing bracket, and whether a comma or nothing at all stands
before the bracket. The number of tokens bounds the steps. -/
def itemsUpTo {α : Type} (item : Reader α) (closing : Char) : Nat → Reader (List α × Bool)
  | 0, _ => none
  | fuel + 1, ts => match ts with
    | .sign c :: rest => if c = closing then some (([], true), rest) else more fuel ts
    | _ => more fuel ts
where
  more (fuel : Nat) (ts : List Token) : Option ((List α × Bool) × List Token) := do
    let (x, rest) ← item ts
    match rest with
    | .sign c :: rest =>
      if c = ',' then
        let ((xs, isOpen), rest) ← itemsUpTo item closing fuel rest
        pure ((x :: xs, isOpen), rest)
      else if c = closing then pure (([x], false), rest)
      else none
    | _ => none

/-- A member of a set, or a key of a table with its value; whether it is the latter. -/
def entry (value : Reader Shape) : Reader Bool := fun ts => do
  let (s, rest) ← value ts
  if !s.isKey then none
  match rest with
  | .sign ':' :: rest =>
    let (v, rest) ← value rest
    if v.isLiteral then pure (true, rest) else none
  | _ => pure (false, rest)

def isText (isBytes : Bool) : Token → Bool
  | .text b => b = isBytes
  | _ => false

/-- A literal without a sign or sum outside of brackets. Pieces of quoted text of one kind make one. -/
def single (value : Reader Shape) : Reader Shape
  | .number isImaginary :: ts => some (.ofNumber isImaginary, ts)
  | .text isBytes :: ts => some (.key, ts.dropWhile (isText isBytes))
  | .constant :: ts => some (.key, ts)
  | .setName :: ts => some (.setName, ts)
  | .sign '(' :: ts => do
    let ((items, isOpen), rest) ← itemsUpTo value ')' ts.length ts
    match items, isOpen with
    | [s], false => pure (s, rest)
    | _, _ =>
      let s ← Shape.tuple? items
      pure (s, rest)
  | .sign '\x7b' :: ts => do
    let ((entries, _), rest) ← itemsUpTo (entry value) '\x7d' ts.length ts
    if entries.all id || !entries.any id then pure (.keyless, rest) else none
  | _ => none

/-- A literal, or the name for an empty set together with its brackets. -/
def called (value : Reader Shape) : Reader Shape := fun ts => do
  let (s, rest) ← single value ts
  match s, rest with
  | .setName, .sign '(' :: .sign ')' :: rest => pure (.keyless, rest)
  | _, _ => pure (s, rest)

def isPlusOrMinus : Token → Bool
  | .sign c => c = '+' || c = '-'
  | _ => false

/-- A number with a plus or minus before it, or any other literal but a sum. -/
def term (value : Reader Shape) : Reader Shape := fun ts =>
  if ts.head?.any isPlusOrMinus then do
    let (s, rest) ← called value ts.tail
    let s ← s.signed?
    pure (s, rest)
  else called value ts

/-- Any literal. Each pair of brackets takes a step. -/
def value : Nat → Reader Shape
  | 0, _ => none
  | fuel + 1, ts => do
    let (s, rest) ← term (value fuel) ts
    if rest.head?.any isPlusOrMinus then
      let (t, rest) ← called (value fuel) rest.tail
      let s ← s.sum? t
      pure (s, rest)
    else pure (s, rest)

/-- One literal, or several with commas between them. -/
def isLiteral (cs : List Char) : Bool :=
  ((tokens? cs).bind fun ts => itemsUpTo (value (deepest + 1)) ')' (ts.length + 1)
      (ts ++ [.sign ')'])).any fun r =>
    !r.1.1.isEmpty && r.1.1.all Shape.isLiteral && r.2.isEmpty

end AlignedLedger.Markup.Literal
