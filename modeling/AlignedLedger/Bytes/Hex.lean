import AlignedLedger.Bytes

/-! Hexadecimal text: two lower case digits a byte; blanks may stand between pairs when read. -/

namespace AlignedLedger.Hex

def digit (n : Nat) : Char := if n < 10 then Char.ofNat (48 + n) else Char.ofNat (87 + n)

def digitChars (b : Bytes) : List Char :=
  b.flatMap fun x => [digit (x.toNat / 16), digit (x.toNat % 16)]

def encode (b : Bytes) : String := String.ofList (digitChars b)

/-- The text with the mark `0x` in front. -/
def marked (b : Bytes) : String := "0x" ++ encode b

def value? (c : Char) : Option Nat :=
  if '0' ≤ c ∧ c ≤ '9' then some (c.toNat - 48)
  else if 'a' ≤ c ∧ c ≤ 'f' then some (c.toNat - 87)
  else if 'A' ≤ c ∧ c ≤ 'F' then some (c.toNat - 55)
  else none

/-- The number that digits make in base 16. -/
def number? (cs : List Char) : Option Nat :=
  cs.foldlM (fun n c => (value? c).map (16 * n + ·)) 0

/-- The six blanks of ASCII. -/
def isGap (c : Char) : Bool := c = ' ' || ('\t' ≤ c && c ≤ '\r')

def decodeChars? : List Char → Option Bytes
  | [] => some []
  | [c] => if isGap c then some [] else none
  | c :: d :: rest =>
    if isGap c then decodeChars? (d :: rest)
    else match value? c, value? d with
      | some hi, some lo => (decodeChars? rest).map (UInt8.ofNat (16 * hi + lo) :: ·)
      | _, _ => none

def decode? (s : String) : Option Bytes := decodeChars? s.toList

/-- The text without a leading `0x` or `0X`. -/
def unmarked (s : String) : List Char :=
  match s.toList with
  | '0' :: 'x' :: rest => rest
  | '0' :: 'X' :: rest => rest
  | cs => cs

/-- Reads text with or without the mark in front; one mark at most. -/
def decodeMarked? (s : String) : Option Bytes := decodeChars? (unmarked s)

end AlignedLedger.Hex
