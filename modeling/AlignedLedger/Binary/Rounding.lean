import AlignedLedger.Binary
import AlignedLedger.Decimal

/-! The binary fractions that 64 bits hold: coefficients of at most 53 bits, within bounds for the
exponent. What lies between two of them is rounded to the nearer one, and from the middle to the even
one; what lies beyond the largest becomes infinite. -/

namespace AlignedLedger

namespace Binary

def precision : Nat := 53

def leastExponent : Int := -1074

def mostExponent : Int := 971

/-- A quotient to the nearest whole number, from the middle to the even one. -/
def roundDiv (num den : Nat) : Nat :=
  let q := num / den
  let r := 2 * (num % den)
  if r < den || (r = den && q % 2 = 0) then q else q + 1

/-- The two parts of a quotient over a power of two. -/
def overPower (num den : Nat) (e : Int) : Nat × Nat :=
  (num <<< (-e).toNat, den <<< e.toNat)

/-- The power of two that leaves a quotient of 53 bits, or the least one there is. -/
def exponentOf (num den : Nat) : Int :=
  let e : Int := num.log2 - den.log2 - precision
  let (n, d) := overPower num den e
  max leastExponent (if n / d < 1 <<< precision then e else e + 1)

/-- The bounds for the exponent, which a coefficient that was rounded up may pass. -/
def bounded (negative : Bool) (c : Nat) (e : Int) : Binary :=
  let (c, e) := if c = 1 <<< precision then (c / 2, e + 1) else (c, e)
  if mostExponent < e then infinite negative else finite negative c e

/-- The number nearest to a quotient. -/
def nearest (negative : Bool) (num den : Nat) : Binary :=
  if num = 0 then zero negative
  else
    let e := exponentOf num den
    let (n, d) := overPower num den e
    bounded negative (roundDiv n d) e

/-- The number nearest to a finite one. -/
def rounded (negative : Bool) (coefficient : Nat) (exponent : Int) : Binary :=
  nearest negative (coefficient <<< exponent.toNat) (1 <<< (-exponent).toNat)

/-- The number nearest to a whole one, unless that is too large. -/
def ofInt? (i : Int) : Option Binary :=
  match rounded (i < 0) i.natAbs 0 with
  | infinite _ => none
  | x => some x

def isNegative : Binary → Bool
  | finite m _ _ => m
  | infinite m => m
  | undefined => false

def times : Binary → Binary → Binary
  | finite m a d, finite n b e => rounded (m != n) (a * b) (d + e)
  | undefined, _ => undefined
  | _, undefined => undefined
  | x, y => if x.isZero || y.isZero then undefined else infinite (x.isNegative != y.isNegative)

/-- A sum of zero is negative only if both parts are. -/
def plus : Binary → Binary → Binary
  | finite m a d, finite n b e =>
    let (x, y) := onCommonPower m a d n b e
    rounded (x + y < 0 || (m && n)) (x + y).natAbs (min d e)
  | infinite m, infinite n => if m = n then infinite m else undefined
  | infinite m, finite .. => infinite m
  | finite .., infinite n => infinite n
  | _, _ => undefined

/-- The powers of ten that are worth a look: what is far beyond the bounds is rounded without one. -/
def decimalReach : Int := 400

/-- The number nearest to a decimal one. -/
def ofDecimal (d : Decimal) : Binary :=
  let size := (Nat.toDigits 10 d.coefficient).length + d.exponent
  if d.coefficient = 0 || size < -decimalReach then zero d.negative
  else if decimalReach < size then infinite d.negative
  else nearest d.negative (d.coefficient * Nat.pow 10 d.exponent.toNat) (Nat.pow 10 (-d.exponent).toNat)

end Binary

end AlignedLedger
