import AlignedLedger.Machine.Run

/-! The cost limit is set for the meter alone. What programs do does not depend on it. -/

namespace AlignedLedger

/-- The same settings but for the cost limit. -/
def Config.withCostLimit (cfg : Config) (n : Nat) : Config := { cfg with costLimit := n }

variable {cfg : Config} {n : Nat}

namespace Stack

variable [Memory]

@[simp] theorem recordedWalk_withCostLimit (ks : List AlignedValue) (t : Tree) (s : Stack) :
    recordedWalk (cfg.withCostLimit n) ks t s = recordedWalk cfg ks t s := by
  induction ks generalizing t s with
  | nil => rfl
  | cons k ks ih => simp only [recordedWalk, ih]; rfl

@[simp] theorem idx_withCostLimit (pushPath : Bool) (path : List PathKey) (s : Stack) :
    idx (cfg.withCostLimit n) pushPath path s = idx cfg pushPath path s := by
  simp only [idx, recordedWalk_withCostLimit]; rfl

@[simp] theorem rebuild_withCostLimit (k : Nat) (v : Tree) (s : Stack) :
    rebuild (cfg.withCostLimit n) k v s = rebuild cfg k v s := by
  induction k generalizing v s with
  | zero => rfl
  | succ k ih => simp only [rebuild, ih]; rfl

@[simp] theorem looseWalk_withCostLimit (pushPath : Bool) (ks : List (AlignedValue ⊕ Datum)) (t : Tree)
    (s : Stack) : looseWalk (cfg.withCostLimit n) pushPath ks t s = looseWalk cfg pushPath ks t s := by
  induction ks generalizing t s with
  | nil => rfl
  | cons k ks ih =>
    cases k with
    | inl k => simp only [looseWalk, recordedWalk_withCostLimit, ih]
    | inr d => rfl

@[simp] theorem foreignFault_withCostLimit (op : Step) (s : Stack) :
    foreignFault (cfg.withCostLimit n) op s = foreignFault cfg op s := by
  unfold foreignFault looseIdx
  simp only [looseWalk_withCostLimit]
  rfl

end Stack

namespace Machine

variable {rates : Tariff}

variable [Memory]

@[simp] theorem perform_withCostLimit (i : Instr) (s : Stack) :
    perform (cfg.withCostLimit n) rates i s = perform cfg rates i s := by
  cases i with
  | idx persist pushPath path => simp only [perform, Stack.idx_withCostLimit]
  | ins persist k => simp only [perform, Stack.ins, Stack.rebuild_withCostLimit]; rfl
  | _ => rfl

@[simp] theorem step_withCostLimit (position : Nat) (op : Step) (s : Stack) :
    step (cfg.withCostLimit n) rates position op s = step cfg rates position op s := by
  cases op with
  | instr i => simp only [step, perform_withCostLimit]
  | foreign d => rfl
  | _ => simp only [step, Stack.foreignFault_withCostLimit]

@[simp] theorem steps_withCostLimit (position : Nat) (p : Program) (s : Stack) :
    steps (cfg.withCostLimit n) rates position p s = steps cfg rates position p s := by
  induction p generalizing position s with
  | nil => rfl
  | cons op p ih => simp only [steps, step_withCostLimit, ih]

@[simp] theorem run_withCostLimit (root : Tree) (p : Program) :
    run (cfg.withCostLimit n) rates root p = run cfg rates root p := by
  simp only [run, steps_withCostLimit]

end Machine

end AlignedLedger
