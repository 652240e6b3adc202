import AlignedLedger.Datum.Arithmetic
import AlignedLedger.Machine.Instr

/-! The price of instructions, and the meter that adds up what a call has used. -/

namespace AlignedLedger

/-- A rate for each kind of instruction, for each step of a path and for each byte put back. -/
structure Rates (α : Type) where
  push : α
  dup : α
  idx : α
  idxCached : α
  popeq : α
  popeqCached : α
  ins : α
  insCached : α
  addi : α
  perPathStep : α
  perByteWritten : α
deriving DecidableEq

abbrev CostModel := Rates Int

/-- Rates as they are handed in. Whether one is an integer shows when it is charged. -/
abbrev Tariff := Rates Datum

namespace CostModel

def standard : CostModel where
  push := 1
  dup := 1
  idx := 8
  idxCached := 2
  popeq := 4
  popeqCached := 1
  ins := 10
  insCached := 4
  addi := 2
  perPathStep := 1
  perByteWritten := 1

/-- The price of an instruction before it runs. -/
def costOf (m : CostModel) : Instr → Int
  | .push .. => m.push
  | .dup _ => m.dup
  | .idx persist _ path => (if persist then m.idxCached else m.idx) + m.perPathStep * path.length
  | .popeq persist _ => if persist then m.popeqCached else m.popeq
  | .ins persist n => (if persist then m.insCached else m.ins) * max n 1
  | .addi _ => m.addi

def tariff (m : CostModel) : Tariff where
  push := .int m.push
  dup := .int m.dup
  idx := .int m.idx
  idxCached := .int m.idxCached
  popeq := .int m.popeq
  popeqCached := .int m.popeqCached
  ins := .int m.ins
  insCached := .int m.insCached
  addi := .int m.addi
  perPathStep := .int m.perPathStep
  perByteWritten := .int m.perByteWritten

end CostModel

namespace Tariff

def standard : Tariff := CostModel.standard.tariff

variable [Memory]

/-- The price of a walk along a path of so many steps. -/
def costOfPath (m : Tariff) (persist : Bool) (steps : Nat) : Except Fault Datum := do
  let along ← m.perPathStep.times steps
  (if persist then m.idxCached else m.idx).plus along

/-- The price of a read. -/
def costOfRead (m : Tariff) (persist : Bool) : Datum :=
  if persist then m.popeqCached else m.popeq

/-- The price of an instruction before it runs. -/
def costOf (m : Tariff) : Instr → Except Fault Datum
  | .push .. => .ok m.push
  | .dup _ => .ok m.dup
  | .idx persist _ path => m.costOfPath persist path.length
  | .popeq persist _ => .ok (m.costOfRead persist)
  | .ins persist n => (if persist then m.insCached else m.ins).times (max n 1)
  | .addi _ => .ok m.addi

def costOfStep (m : Tariff) : Step → Except Fault Datum
  | .instr i => m.costOf i
  | .pushForeign .. => .ok m.push
  | .idxForeign persist _ path => m.costOfPath persist path.length
  | .popeqForeign persist _ => .ok (m.costOfRead persist)
  | .foreign d => .error (.noCostEntry d)

/-- With integer rates every price is an integer, the one that the cost model gives. -/
theorem costOf_tariff (m : CostModel) (i : Instr) :
    Tariff.costOf m.tariff i = .ok (.int (m.costOf i)) := by
  cases i with
  | push _ _ => rfl
  | dup _ => rfl
  | idx persist _ _ => cases persist <;> rfl
  | popeq persist _ => cases persist <;> rfl
  | ins persist _ => cases persist <;> rfl
  | addi _ => rfl

end Tariff

/-- What has been used, and the limit if there is one. -/
structure Meter where
  limit : Option Amount
  used : Nat
deriving DecidableEq

/-- A computation that is charged for. The meter keeps what was used also when it fails. -/
abbrev Metered := EStateM Fault Meter

namespace Meter

def start (limit : Option Amount) : Meter := ⟨limit, 0⟩

def capped (limit : Option Nat) : Meter := start (limit.map .ofNat)

/-- Adds to what has been used, unless that would pass the limit. -/
def spend (n : Amount) : Metered Unit := fun m =>
  match m.limit with
  | some l =>
    if m.used + n.value ≤ l.value then .ok () ⟨m.limit, m.used + n.value⟩
    else .error (.costLimitExceeded m.used l n) m
  | none => .ok () ⟨none, m.used + n.value⟩

/-- An amount given as a datum, which has to be an integer and not below zero. -/
def amountOf (what : String) (d : Datum) : Except Fault Amount :=
  match d.integer? with
  | some (.ofNat n) => .ok ⟨n, d.memberName?⟩
  | some (.negSucc n) => .error (.amountNegative what (.negSucc n))
  | none => .error (.amountNotInteger what d)

def chargeDatum (d : Datum) : Metered Unit := do
  let n ← MonadExcept.ofExcept (amountOf "consume amount" d)
  spend n

/-- Charges a price, if there is one. -/
def chargePrice (price : Except Fault Datum) : Metered Unit := do
  chargeDatum (← MonadExcept.ofExcept price)

/-- A new meter with a limit given as a datum, where nothing stands for no limit. -/
def ofDatum (d : Datum) : Except Fault Meter :=
  if d.isNull then .ok (start none)
  else (amountOf "limit" d).map fun n => start (some n)

end Meter

end AlignedLedger
