import AlignedLedger.Text.Blank
import AlignedLedger.Text.DecimalDigit

/-! Integers read from text: blanks around them, a sign, digits of any script, single underscores
between digits. A base may be named in front by `0x`, `0o` or `0b`. In decimal a number has a bounded
length, both read and written. -/

namespace AlignedLedger.Text

/-- The value of a digit or letter in a base up to 36. -/
def digitValue? (base : Nat) (c : Char) : Option Nat :=
  let v := match decimalDigit? c with
    | some d => some d
    | none =>
      if 'a' ≤ c && c ≤ 'z' then some (c.toNat - 87)
      else if 'A' ≤ c && c ≤ 'Z' then some (c.toNat - 55)
      else none
  v.filter (· < base)

/-- Reads the rest of a run of digits behind the value `acc`. -/
def digitsFrom? (base acc : Nat) : List Char → Option Nat
  | [] => some acc
  | '_' :: c :: rest => (digitValue? base c).bind fun d => digitsFrom? base (acc * base + d) rest
  | c :: rest => (digitValue? base c).bind fun d => digitsFrom? base (acc * base + d) rest

/-- At least one digit, and no underscore at either end. -/
def digits? (base : Nat) : List Char → Option Nat
  | [] => none
  | c :: rest => (digitValue? base c).bind fun d => digitsFrom? base d rest

/-- The most decimal digits of a number in text. -/
def mostDigits : Nat := 4300

def writableBound : Nat := Nat.pow 10 mostDigits

/-- The number can be written in decimal. -/
def isWritable (i : Int) : Bool := i.natAbs < writableBound

/-- A run of decimal digits that is not too long; zeros in front count, underscores do not. -/
def decimalDigits? (cs : List Char) : Option Nat :=
  if (cs.filter (· != '_')).length ≤ mostDigits then digits? 10 cs else none

def signed (read : List Char → Option Nat) : List Char → Option Int
  | '-' :: rest => (read rest).map fun n => -(n : Int)
  | '+' :: rest => (read rest).map Int.ofNat
  | cs => (read cs).map Int.ofNat

/-- The value of a decimal number. -/
def integer? (s : String) : Option Int :=
  signed decimalDigits? (trimChars isNumeralBlank s.toList)

def namedBase? (c : Char) : Option Nat :=
  if c = 'x' || c = 'X' then some 16
  else if c = 'o' || c = 'O' then some 8
  else if c = 'b' || c = 'B' then some 2
  else none

/-- A decimal number without a leading zero, or zeros alone. -/
def plainDigits? (cs : List Char) : Option Nat :=
  (decimalDigits? cs).filter fun n => n = 0 || (cs.head?.bind decimalDigit?) != some 0

/-- Digits in the base that stands in front, decimal when there is none. -/
def literalDigits? : List Char → Option Nat
  | z :: c :: rest =>
    match decimalDigit? z, namedBase? c with
    | some 0, some base =>
      digits? base (if rest.head? = some '_' then rest.tail else rest)
    | _, _ => plainDigits? (z :: c :: rest)
  | cs => plainDigits? cs

/-- The value of a number that may name its base. -/
def literal? (s : String) : Option Int :=
  signed literalDigits? (trimChars isNumeralBlank s.toList)

end AlignedLedger.Text
