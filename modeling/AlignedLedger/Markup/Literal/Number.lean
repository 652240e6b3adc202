import AlignedLedger.Text.Numeral

/-! Numbers in literals: integers with or without a named base, decimal fractions with or without an
exponent, and imaginary numbers. -/

namespace AlignedLedger.Markup.Literal

/-- Characters of a name; all beyond ASCII are taken for such. -/
def isNameChar (c : Char) : Bool := c.isAlphanum || c = '_' || 0x80 ≤ c.toNat

def isHexDigit (c : Char) : Bool :=
  c.isDigit || ('a' ≤ c && c ≤ 'f') || ('A' ≤ c && c ≤ 'F')

/-- What follows more digits with single underscores in front of them. -/
def behindMoreDigits (isDigit : Char → Bool) : List Char → List Char
  | '_' :: c :: cs => if isDigit c then behindMoreDigits isDigit cs else '_' :: c :: cs
  | c :: cs => if isDigit c then behindMoreDigits isDigit cs else c :: cs
  | [] => []

/-- What follows a run of digits with single underscores between them. -/
def behindDigits? (isDigit : Char → Bool) : List Char → Option (List Char)
  | c :: cs => if isDigit c then some (behindMoreDigits isDigit cs) else none
  | [] => none

/-- The digits of the base that a letter behind a zero names. -/
def baseDigit? (b : Char) : Option (Char → Bool) :=
  match b.toLower with
  | 'x' => some isHexDigit
  | 'o' => some fun c => '0' ≤ c && c ≤ '7'
  | 'b' => some fun c => c = '0' || c = '1'
  | _ => none

/-- What follows a number that names its base. -/
def behindBased? : List Char → Option (List Char)
  | '0' :: b :: cs => (baseDigit? b).bind fun isDigit =>
    behindDigits? isDigit (if cs.head? = some '_' then cs.tail else cs)
  | _ => none

/-- What follows the fraction of a number. A point alone is one if digits stand before it. -/
def behindFraction? (bare : Bool) : List Char → Option (List Char)
  | '.' :: cs => (behindDigits? Char.isDigit cs).or (if bare then none else some cs)
  | _ => none

def behindExponent? : List Char → Option (List Char)
  | e :: cs =>
    if e.toLower = 'e' then
      behindDigits? Char.isDigit (if cs.head?.any fun s => s = '+' || s = '-' then cs.tail else cs)
    else none
  | [] => none

/-- The digits of a whole number: zeros alone, or not too many and no zero in front. -/
def isWhole (digits : List Char) : Bool :=
  let digits := digits.filter (· != '_')
  digits.all (· = '0') || (digits.head? != some '0' && digits.length ≤ Text.mostDigits)

/-- Whether the decimal number in front is imaginary, and what follows it. -/
def decimal? (cs : List Char) : Option (Bool × List Char) :=
  let behindWhole := (behindDigits? Char.isDigit cs).getD cs
  let whole := cs.take (cs.length - behindWhole.length)
  let fraction := behindFraction? whole.isEmpty behindWhole
  let exponent := behindExponent? (fraction.getD behindWhole)
  let rest := exponent.getD (fraction.getD behindWhole)
  if whole.isEmpty && fraction.isNone then none
  else if rest.head?.any fun c => c.toLower = 'j' then some (true, rest.tail)
  else if fraction.isSome || exponent.isSome || isWhole whole then some (false, rest)
  else none

/-- Whether the number in front is imaginary, and what follows it, which is no name. -/
def number? (cs : List Char) : Option (Bool × List Char) :=
  (((behindBased? cs).map fun rest => (false, rest)).or (decimal? cs)).filter fun n =>
    !n.2.head?.any isNameChar

end AlignedLedger.Markup.Literal
