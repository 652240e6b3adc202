import AlignedLedger.Text.Numeral

/-! Integers in digits of ASCII, read leniently: blanks around them, a plus, zeros in front with
underscores among them, single underscores between digits, and a fraction of zeros may go along. -/

namespace AlignedLedger.Text

/-- Digits without a zero in front, or one zero. -/
def strictDigits? : List Char → Option Nat
  | ['0'] => some 0
  | '0' :: _ => none
  | cs => if cs.all Char.isDigit then digits? 10 cs else none

/-- Strict digits with or without a minus, not too many in all. -/
def strictInteger? (cs : List Char) : Option Int :=
  if mostDigits < cs.length then none
  else match cs with
    | '-' :: digits => (strictDigits? digits).map fun n => -(n : Int)
    | digits => (strictDigits? digits).map Int.ofNat

/-- A plus with no minus behind it is left out. -/
def withoutPlus? : List Char → Option (List Char)
  | '+' :: '-' :: _ => none
  | '+' :: cs => some cs
  | cs => some cs

/-- Leaves out zeros and underscores in front of another digit or a minus. Of those that end the number
or its whole part the last one stays. -/
def withoutFrontZeros? (cs : List Char) : Option (List Char) :=
  let zeros := if cs.head? = some '0' then cs.takeWhile fun c => c = '0' || c = '_' else []
  match cs.drop zeros.length, zeros.getLast? with
  | [], last => last.map ([·])
  | '.' :: fraction, some last => some (last :: '.' :: fraction)
  | c :: rest, _ => if ('1' ≤ c && c ≤ '9') || c = '-' then some (c :: rest) else none

/-- Leaves out a point with zeros alone behind it. -/
def withoutZeroFraction (cs : List Char) : List Char :=
  let whole := cs.takeWhile (· != '.')
  match cs.drop whole.length with
  | _ :: c :: fraction => if (c :: fraction).all (· = '0') then whole else cs
  | _ => cs

/-- Leaves out underscores, if each stands alone and none at an end. -/
def withoutUnderscores (cs : List Char) : List Char :=
  let isLoose := cs.head? = some '_' || cs.getLast? = some '_' ||
    (cs.zip cs.tail).any fun p => p.1 = '_' && p.2 = '_'
  if isLoose then cs else cs.filter (· != '_')

/-- The value of an integer in a lenient form. -/
def lenientInteger? (s : String) : Option Int := do
  let cs ← withoutPlus? (trimChars isNumeralBlank s.toList)
  let cs ← withoutFrontZeros? cs
  strictInteger? (withoutUnderscores (withoutZeroFraction cs))

end AlignedLedger.Text
