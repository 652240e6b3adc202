/-! Decimal fractions: a sign, a coefficient and a power of ten, and how they are written. -/

namespace AlignedLedger

structure Decimal where
  negative : Bool
  coefficient : Nat
  exponent : Int
deriving DecidableEq

namespace Decimal

/-- Moves the zeros at the end of the coefficient into the exponent. -/
def reduceFrom : Nat → Nat → Int → Nat × Int
  | 0, c, e => (c, e)
  | fuel + 1, c, e => if c ≠ 0 ∧ c % 10 = 0 then reduceFrom fuel (c / 10) (e + 1) else (c, e)

def reduced (d : Decimal) : Decimal :=
  let r := reduceFrom (Nat.toDigits 10 d.coefficient).length d.coefficient d.exponent
  if r.1 = 0 then ⟨d.negative, 0, 0⟩ else ⟨d.negative, r.1, r.2⟩

/-- The places of the point for which it is written among or next to the digits. -/
def isPositional (point : Int) : Bool := -4 < point && point ≤ 16

def exponentText (e : Int) : List Char :=
  let ds := Nat.toDigits 10 e.natAbs
  'e' :: (if e < 0 then '-' else '+') :: (if ds.length < 2 then '0' :: ds else ds)

/-- The fewest digits that name the number, always with a point or an exponent. -/
def text (d : Decimal) : String :=
  let r := d.reduced
  let ds := Nat.toDigits 10 r.coefficient
  let point : Int := ds.length + r.exponent
  let body :=
    if isPositional point then
      if point ≤ 0 then '0' :: '.' :: (List.replicate (-point).toNat '0' ++ ds)
      else if r.exponent < 0 then ds.take point.toNat ++ '.' :: ds.drop point.toNat
      else ds ++ List.replicate r.exponent.toNat '0' ++ ['.', '0']
    else match ds with
      | [c] => c :: exponentText (point - 1)
      | c :: rest => c :: '.' :: (rest ++ exponentText (point - 1))
      | [] => []
  String.ofList (if d.negative then '-' :: body else body)

end Decimal

end AlignedLedger
