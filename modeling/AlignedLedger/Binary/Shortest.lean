import AlignedLedger.Binary.Rounding

/-! The written form of a binary fraction: of the decimal numbers that are rounded to it, those with
the fewest digits, and of these the nearest. -/

namespace AlignedLedger.Binary

/-- The numbers that are rounded to a coefficient, as the ends of an interval in quarters of its unit.
Below the least coefficient of its length the next number is only half as far away. -/
def interval (c : Nat) (e : Int) : Nat × Nat :=
  (if c = 1 <<< (precision - 1) && leastExponent < e then 4 * c - 1 else 4 * c - 2, 4 * c + 2)

/-- Compares `a * 10 ^ k` with `b * 2 ^ e`. -/
def compareScaled (a : Nat) (k : Int) (b : Nat) (e : Int) : Ordering :=
  compare ((a * Nat.pow 10 k.toNat) <<< (-e).toNat) (b <<< e.toNat * Nat.pow 10 (-k).toNat)

/-- Whether `n * 10 ^ k` is rounded to the number; the ends go to an even coefficient. -/
def readsBack (c : Nat) (e : Int) (n : Nat) (k : Int) : Bool :=
  let low := compareScaled n k (interval c e).1 (e - 2)
  let high := compareScaled n k (interval c e).2 (e - 2)
  (low == .gt || (low == .eq && c % 2 == 0)) && (high == .lt || (high == .eq && c % 2 == 0))

/-- The better one of the two decimal numbers around the number on the grid of `10 ^ k`, if any is
rounded to it. -/
def onGrid? (c : Nat) (e : Int) (k : Int) : Option Nat :=
  let num := c <<< e.toNat * Nat.pow 10 (-k).toNat
  let den := Nat.pow 10 k.toNat <<< (-e).toNat
  let below := num / den
  match readsBack c e below k, readsBack c e (below + 1) k with
  | true, true => some (roundDiv num den)
  | true, false => some below
  | false, true => some (below + 1)
  | false, false => none

/-- The first grid with a hit, from coarse to fine. -/
def search (c : Nat) (e : Int) : Nat → Int → Nat × Int
  | 0, k => (c, k)
  | fuel + 1, k => match onGrid? c e k with
    | some n => (n, k)
    | none => search c e fuel (k - 1)

/-- A power of ten above `2 ^ bits`, and not far above it: a factor of two is 0.30103 decimal places. -/
def coarsestGrid (bits : Int) : Int := bits * 30103 / 100000 + 1

/-- Seventeen digits always suffice; the first grid may lie a few powers above the number. -/
def searchSteps : Nat := 24

def shortest (negative : Bool) (c : Nat) (e : Int) : Decimal :=
  if c = 0 then ⟨negative, 0, 0⟩
  else
    let (n, k) := search c e searchSteps (coarsestGrid (c.log2 + 1 + e))
    ⟨negative, n, k⟩

def text : Binary → String
  | finite m c e => (shortest m c e).text
  | infinite m => if m then "-inf" else "inf"
  | undefined => "nan"

end AlignedLedger.Binary
