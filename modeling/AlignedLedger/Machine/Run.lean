import AlignedLedger.Machine.Cost
import AlignedLedger.Machine.Foreign

/-! Running programs. A program starts with its root as the only entry of the operand stack and has to
end with one entry, which is the new root. Each instruction is charged for before it runs; the new
root is only handed out when the whole program has succeeded. -/

namespace AlignedLedger

/-- What a step leaves: the stack, the value it has read, and the instruction as it goes on record,
with the value read filled in. -/
structure Effect where
  stack : Stack
  read : Option AlignedValue
  executed : Instr

/-- What a run that succeeds gives. -/
structure Outcome where
  tree : Tree
  reads : List AlignedValue
  executed : List Instr
  cost : Nat
deriving DecidableEq

/-- The value of the last read. -/
def Outcome.lastRead? (o : Outcome) : Option AlignedValue := o.reads.getLast?

namespace Machine

variable [Memory]

/-- What an instruction does once it is paid for. Putting back is charged for by the byte. -/
def perform (cfg : Config) (rates : Tariff) (i : Instr) (s : Stack) : Metered Effect :=
  match i with
  | .push _ t => do
    let s ← MonadExcept.ofExcept (s.push cfg t)
    pure ⟨s, none, i⟩
  | .dup n => do
    let s ← MonadExcept.ofExcept (s.dup cfg n)
    pure ⟨s, none, i⟩
  | .idx _ pushPath path => do
    let s ← MonadExcept.ofExcept (s.idx cfg pushPath path)
    pure ⟨s, none, i⟩
  | .popeq persist result => do
    let (v, s) ← MonadExcept.ofExcept (s.popeq result)
    pure ⟨s, some v, .popeq persist (some v)⟩
  | .ins _ n => do
    let (v, s) ← MonadExcept.ofExcept (s.insOperands n)
    Meter.chargePrice (rates.perByteWritten.times v.storageSize)
    let s ← MonadExcept.ofExcept (s.ins cfg n.toNat v)
    pure ⟨s, none, i⟩
  | .addi n => do
    let s ← MonadExcept.ofExcept (s.addi cfg n)
    pure ⟨s, none, i⟩

/-- One step of a program, at its position. -/
def step (cfg : Config) (rates : Tariff) (position : Nat) : Step → Stack → Metered Effect
  | .instr i, s => do
    Meter.chargePrice (rates.costOf i)
    perform cfg rates i s
  | .foreign d, _ => throw (.unknownInstruction position d)
  | op, s => do
    Meter.chargePrice (rates.costOfStep op)
    throw (s.foreignFault cfg op)

/-- All steps from a position on: the stack in the end, what was read and what goes on record. -/
def steps (cfg : Config) (rates : Tariff) :
    Nat → Program → Stack → Metered (Stack × List AlignedValue × List Instr)
  | _, [], s => pure (s, [], [])
  | position, op :: ops, s => do
    let e ← step cfg rates position op s
    let (s, reads, executed) ← steps cfg rates (position + 1) ops e.stack
    pure (s, e.read.toList ++ reads, e.executed :: executed)

def run (cfg : Config) (rates : Tariff) (root : Tree) (program : Program) : Metered Outcome := do
  let before ← get
  let (s, reads, executed) ← steps cfg rates 0 program [root]
  let after ← get
  match s with
  | [t] => pure ⟨t, reads, executed, after.used - before.used⟩
  | s => throw (.leftOnStack s.length)

/-- Runs a program on its own, under the configured limit. -/
def runOnce (cfg : Config) (root : Tree) (program : Program) : Except Fault Outcome :=
  match run cfg Tariff.standard root program (Meter.capped cfg.limit?) with
  | .ok o _ => .ok o
  | .error e _ => .error e

end Machine

end AlignedLedger
