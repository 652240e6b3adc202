/-! Binary fractions: a sign, a coefficient and a power of two; beyond them the two infinities, and
what is no number at all. -/

namespace AlignedLedger

inductive Binary where
  | finite (negative : Bool) (coefficient : Nat) (exponent : Int)
  | infinite (negative : Bool)
  | undefined
deriving DecidableEq

namespace Binary

/-- A whole number with all of its digits. -/
def ofInt (i : Int) : Binary := finite (i < 0) i.natAbs 0

def zero (negative : Bool) : Binary := finite negative 0 0

def isZero : Binary → Bool
  | finite _ c _ => c = 0
  | _ => false

def signed (negative : Bool) (n : Nat) : Int := if negative then -n else n

/-- A coefficient with its sign on a lower power of two than its own. -/
def scaled (negative : Bool) (coefficient : Nat) (shift : Int) : Int :=
  signed negative (coefficient <<< shift.toNat)

/-- Two fractions on the lower one of their powers of two. -/
def onCommonPower (m : Bool) (a : Nat) (d : Int) (n : Bool) (b : Nat) (e : Int) : Int × Int :=
  (scaled m a (d - min d e), scaled n b (e - min d e))

/-- The number stands before the other one. An infinity stands beyond every other number of its side;
what is no number stands nowhere. -/
def less : Binary → Binary → Bool
  | finite m a d, finite n b e => (onCommonPower m a d n b e).1 < (onCommonPower m a d n b e).2
  | finite .., infinite n => !n
  | infinite m, finite .. => m
  | infinite m, infinite n => m && !n
  | undefined, _ => false
  | _, undefined => false

/-- The same number; what is no number differs also from itself. -/
def equal : Binary → Binary → Bool
  | finite m a d, finite n b e => (onCommonPower m a d n b e).1 = (onCommonPower m a d n b e).2
  | infinite m, infinite n => m = n
  | _, _ => false

/-- The whole part of a finite number, toward zero. -/
def truncate (negative : Bool) (coefficient : Nat) (exponent : Int) : Int :=
  signed negative (coefficient <<< exponent.toNat >>> (-exponent).toNat)

end Binary

end AlignedLedger
