import AlignedLedger.Datum
import AlignedLedger.Json

/-! Amounts as they are handed in: natural numbers, some under the name of a member of an
enumeration. -/

namespace AlignedLedger

/-- The name, if there is one, is that of the enumeration and that of its member. -/
structure Amount where
  value : Nat
  name? : Option (String × String)
deriving DecidableEq

namespace Amount

def ofNat (n : Nat) : Amount := ⟨n, none⟩

def toJson (a : Amount) : Json :=
  match a.name? with
  | some (cls, name) => .member cls name a.value
  | none => .int a.value

def toDatum (a : Amount) : Datum :=
  match a.name? with
  | some (cls, name) => .member cls name a.value
  | none => .int a.value

@[simp] theorem value_ofNat (n : Nat) : (ofNat n).value = n := rfl

end Amount

namespace Datum

/-- The name under which an integer was handed in. -/
def memberName? : Datum → Option (String × String)
  | member cls name _ => some (cls, name)
  | _ => none

end Datum

end AlignedLedger
