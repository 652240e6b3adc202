import AlignedLedger.Proofs.Machine.Frame
import AlignedLedger.Proofs.Tree.Container

/-! Runs that are watched: each stack that there is on the way is kept, and entries are taken off the
stack without asking whether there are any, as far as that has been asked before. A watched run follows
the run that is not watched if it comes to the same end. -/

namespace AlignedLedger

/-- What a run has used, its operand stack, and the stacks that were there before, the latest first. -/
structure Course where
  meter : Meter
  stack : Stack
  past : List Stack

/-- What stops a watched run: a fault, or that an entry is taken off the stack and there is none. -/
inductive Stop where
  | fault (e : Fault)
  | emptyPop

abbrev Watched := EStateM Stop Course

namespace Watched

variable {α : Type}

def fail (e : Fault) : Watched α := throw (.fault e)

def ofExcept (x : Except Fault α) : Watched α :=
  match x with
  | .ok a => pure a
  | .error e => fail e

def replace (s : Stack) : Watched Unit := modify fun c => ⟨c.meter, s, c.stack :: c.past⟩

def charge (price : Except Fault Datum) : Watched Unit := fun c =>
  match Meter.chargePrice price c.meter with
  | .ok () m => .ok () { c with meter := m }
  | .error e m => .error (.fault e) { c with meter := m }

def push (cfg : Config) (t : Tree) : Watched Unit := do
  let s := (← get).stack
  if s.length < cfg.maxStackDepth then replace (t :: s) else fail (.stackOverflow cfg.maxStackDepth)

/-- Goes on only if there are `n` entries. -/
def require (use : StackUse) (n : Nat) : Watched Unit := do
  let s := (← get).stack
  if s.length < n then fail (.stackUnderflow use n s.length)

/-- Takes the entry on top, which has to be there. -/
def take : Watched Tree := do
  match (← get).stack with
  | [] => throw .emptyPop
  | t :: s => do
    replace s
    pure t

def takeCell : Watched AlignedValue := do
  let t ← take
  ofExcept t.asCell

def pop (use : StackUse) : Watched Tree := do
  require use 1
  take

def popCell (use : StackUse) : Watched AlignedValue := do
  require use 1
  takeCell

def dup (cfg : Config) (n : Int) : Watched Unit := do
  let s := (← get).stack
  match n with
  | .ofNat i => match s[i]? with
    | some t => push cfg t
    | none => fail (.dupDepth n s.length)
  | .negSucc _ => fail (.dupDepth n s.length)

def pathKeys : List PathKey → Watched (List AlignedValue)
  | [] => pure []
  | .literal k :: path => do
    let ks ← pathKeys path
    pure (k :: ks)
  | .stack :: path => do
    let k ← popCell .idxKey
    let ks ← pathKeys path
    pure (k :: ks)

variable [Memory]

def recordedWalk (cfg : Config) : List AlignedValue → Tree → Watched Tree
  | [], t => pure t
  | k :: ks, t => do
    push cfg t.orNewMap
    let key ← ofExcept (Tree.makeCell cfg k)
    push cfg key
    let child ← ofExcept (t.orNewMap.childOrNull k)
    recordedWalk cfg ks child

def idx (cfg : Config) (pushPath : Bool) (path : List PathKey) : Watched Unit := do
  if cfg.maxPathLength < path.length then fail (.pathTooLong path.length cfg.maxPathLength)
  let keys ← pathKeys path
  let t ← pop .idx
  let u ← if pushPath then recordedWalk cfg keys t else ofExcept (t.walk keys)
  push cfg u

def popeq (result : Option AlignedValue) : Watched AlignedValue := do
  let v ← popCell .popeq
  match result with
  | some expected => if expected = v then pure v else fail (.popeqMismatch expected v)
  | none => pure v

def insOperands (n : Int) : Watched Tree :=
  match n with
  | .ofNat n => do
    require .ins (1 + 2 * n)
    take
  | .negSucc _ => fail .negativeInsCount

/-- Nothing is asked here before entries are taken. -/
def rebuild (cfg : Config) : Nat → Tree → Watched Tree
  | 0, v => pure v
  | n + 1, v => do
    let key ← takeCell
    let container ← take
    let v ← ofExcept (container.insert cfg key v)
    rebuild cfg n v

def ins (cfg : Config) (n : Nat) (value : Tree) : Watched Unit := do
  let v ← rebuild cfg n value
  push cfg v

def addi (cfg : Config) (immediate : Int) : Watched Unit :=
  match immediate with
  | .ofNat n => do
    let v ← popCell .addi
    match v.addNat n with
    | .ok w => do
      let t ← ofExcept (Tree.makeCell cfg w)
      push cfg t
    | .error cause => fail (.addiRejected cause)
  | .negSucc _ => fail .negativeImmediate

/-- What an instruction does: the value it reads, and how it goes on record. -/
def perform (cfg : Config) (rates : Tariff) (i : Instr) : Watched (Option AlignedValue × Instr) :=
  match i with
  | .push _ t => do
    push cfg t
    pure (none, i)
  | .dup n => do
    dup cfg n
    pure (none, i)
  | .idx _ pushPath path => do
    idx cfg pushPath path
    pure (none, i)
  | .popeq persist result => do
    let v ← popeq result
    pure (some v, .popeq persist (some v))
  | .ins _ n => do
    let v ← insOperands n
    charge (rates.perByteWritten.times v.storageSize)
    ins cfg n.toNat v
    pure (none, i)
  | .addi n => do
    addi cfg n
    pure (none, i)

/-- Operands of another kind than they should have are not watched any closer. -/
def step (cfg : Config) (rates : Tariff) (position : Nat) :
    Step → Watched (Option AlignedValue × Instr)
  | .instr i => do
    charge (rates.costOf i)
    perform cfg rates i
  | .foreign d => fail (.unknownInstruction position d)
  | op => do
    charge (rates.costOfStep op)
    fail ((← get).stack.foreignFault cfg op)

def steps (cfg : Config) (rates : Tariff) :
    Nat → Program → Watched (List AlignedValue × List Instr)
  | _, [] => pure ([], [])
  | position, op :: ops => do
    let e ← step cfg rates position op
    let es ← steps cfg rates (position + 1) ops
    pure (e.1.toList ++ es.1, e.2 :: es.2)

def run (cfg : Config) (rates : Tariff) (program : Program) : Watched Outcome := do
  let before := (← get).meter
  let es ← steps cfg rates 0 program
  let after ← get
  match after.stack with
  | [t] => pure ⟨t, es.1, es.2, after.meter.used - before.used⟩
  | s => fail (.leftOnStack s.length)

end Watched

namespace Course

variable [Memory]

/-- The stack is within its bounds, now and at all times before, and its entries are trees that the
constructors made. -/
def Sound (cfg : Config) (c : Course) : Prop :=
  ∀ s ∈ c.stack :: c.past, s.length ≤ cfg.maxStackDepth ∧ ∀ t ∈ s, t.Built cfg

variable {cfg : Config} {c : Course}

theorem Sound.replace (hc : c.Sound cfg) {s : Stack} (hl : s.length ≤ cfg.maxStackDepth)
    (hs : ∀ t ∈ s, t.Built cfg) : Sound cfg ⟨c.meter, s, c.stack :: c.past⟩ :=
  List.forall_mem_cons.mpr ⟨⟨hl, hs⟩, hc⟩

theorem Sound.built (hc : c.Sound cfg) : ∀ t ∈ c.stack, t.Built cfg :=
  (hc _ List.mem_cons_self).2

theorem Sound.length_le (hc : c.Sound cfg) : c.stack.length ≤ cfg.maxStackDepth :=
  (hc _ List.mem_cons_self).1

theorem Sound.built_of_pop (hc : c.Sound cfg) {use : StackUse} {t : Tree} {s : Stack}
    (h : c.stack.pop use = .ok (t, s)) : t.Built cfg := by
  have hb := hc.built
  rw [Stack.pop_eq_ok.mp h] at hb
  exact (List.forall_mem_cons.mp hb).1

theorem Sound.binaryLength_of_popCell (hc : c.Sound cfg) {use : StackUse} {v : AlignedValue} {s : Stack}
    (h : c.stack.popCell use = .ok (v, s)) : v.binaryLength ≤ cfg.maxCellBytes := by
  have hb := hc.built
  rw [Stack.popCell_eq_ok.mp h] at hb
  exact Tree.built_cell_iff.mp (List.forall_mem_cons.mp hb).1

end Course

section Follows

variable {α β γ δ : Type} {cfg : Config} {E : Fault → Prop} {c : Course}

variable [Memory]

/-- From here on, the watched computation comes to what the other one comes to. It stays sound, and it is
stopped by nothing but faults that are looked for. A view tells the result from the stack in what the
other one gives. -/
def Follows (cfg : Config) (E : Fault → Prop) (c : Course) (x : Watched α) (y : Metered β)
    (view : β → α × Stack) : Prop :=
  match y c.meter with
  | .ok b m => ∃ c', x c = .ok (view b).1 c' ∧ c'.stack = (view b).2 ∧ c'.meter = m ∧ c'.Sound cfg
  | .error e m => ∃ c', x c = .error (.fault e) c' ∧ c'.meter = m ∧ c'.Sound cfg ∧ E e

namespace Follows

theorem pure {b : β} {a : α} {view : β → α × Stack} (hc : c.Sound cfg) (hb : view b = (a, c.stack)) :
    Follows cfg E c (Pure.pure a) (Pure.pure b) view :=
  ⟨c, by rw [hb]; rfl, by rw [hb], rfl, hc⟩

theorem get (hc : c.Sound cfg) :
    Follows cfg E c (MonadState.get : Watched Course) (MonadState.get : Metered Meter)
      fun _ => (c, c.stack) :=
  ⟨c, rfl, rfl, rfl, hc⟩

theorem fail {e : Fault} {view : β → α × Stack} (hc : c.Sound cfg) (he : E e) :
    Follows cfg E c (Watched.fail e) (MonadExcept.ofExcept (.error e)) view :=
  ⟨c, rfl, rfl, hc, he⟩

theorem congr {x z : Watched α} {y : Metered β} {view : β → α × Stack} (hx : x c = z c)
    (h : Follows cfg E c z y view) : Follows cfg E c x y view := by
  unfold Follows at h ⊢
  rw [hx]
  exact h

theorem bind {x : Watched α} {y : Metered β} {view : β → α × Stack} {f : α → Watched γ}
    {g : β → Metered δ} {view' : δ → γ × Stack} (hx : Follows cfg E c x y view)
    (hf : ∀ b c', y c.meter = .ok b c'.meter → c'.stack = (view b).2 → c'.Sound cfg →
      Follows cfg E c' (f (view b).1) (g b) view') :
    Follows cfg E c (x >>= f) (y >>= g) view' := by
  unfold Follows at hx ⊢
  cases hy : y c.meter with
  | error e m =>
    rw [hy] at hx
    obtain ⟨c', hc', hm, hs, he⟩ := hx
    rw [bind_run_of_error hy]
    exact ⟨c', bind_run_of_error hc', hm, hs, he⟩
  | ok b m =>
    rw [hy] at hx
    obtain ⟨c', hc', hs, rfl, hsound⟩ := hx
    rw [bind_run_of_ok hy, bind_run_of_ok hc']
    exact hf b c' hy hs hsound

section Plain

variable {x : Watched α} {f : α → Watched γ} {view' : δ → γ × Stack}

theorem bind_except {r : Except Fault β} {view : β → α × Stack} {g : β → Except Fault δ}
    (hx : Follows cfg E c x (MonadExcept.ofExcept r) view)
    (hf : ∀ b c', r = .ok b → c'.stack = (view b).2 → c'.Sound cfg →
      Follows cfg E c' (f (view b).1) (MonadExcept.ofExcept (g b)) view') :
    Follows cfg E c (x >>= f) (MonadExcept.ofExcept (r >>= g)) view' := by
  have hsplit : (MonadExcept.ofExcept (r >>= g) : Metered δ) =
      MonadExcept.ofExcept r >>= fun b => MonadExcept.ofExcept (g b) := by
    funext m
    cases r <;> rfl
  rw [hsplit]
  exact hx.bind fun b c' h hs hc' => hf b c' (ofExcept_run_eq_ok.mp h).1 hs hc'

/-- After something that leaves both a result and a stack. -/
theorem bind_pair {r : Except Fault (α × Stack)} {g : α × Stack → Except Fault δ}
    (hx : Follows cfg E c x (MonadExcept.ofExcept r) id)
    (hf : ∀ a c', r = .ok (a, c'.stack) → c'.Sound cfg →
      Follows cfg E c' (f a) (MonadExcept.ofExcept (g (a, c'.stack))) view') :
    Follows cfg E c (x >>= f) (MonadExcept.ofExcept (r >>= g)) view' := by
  refine hx.bind_except fun ⟨a, s⟩ c' h hs hc' => ?_
  obtain rfl : c'.stack = s := hs
  exact hf a c' h hc'

/-- After something that leaves the stack alone. -/
theorem bind_value {r : Except Fault α} {g : α → Except Fault δ}
    (hx : Follows cfg E c x (MonadExcept.ofExcept r) fun a => (a, c.stack))
    (hf : ∀ a c', r = .ok a → c'.stack = c.stack → c'.Sound cfg →
      Follows cfg E c' (f a) (MonadExcept.ofExcept (g a)) view') :
    Follows cfg E c (x >>= f) (MonadExcept.ofExcept (r >>= g)) view' :=
  hx.bind_except hf

/-- After something that leaves nothing but a stack. -/
theorem bind_stack {x : Watched Unit} {f : Unit → Watched γ} {r : Except Fault Stack}
    {g : Stack → Except Fault δ} (hx : Follows cfg E c x (MonadExcept.ofExcept r) fun s => ((), s))
    (hf : ∀ c', r = .ok c'.stack → c'.Sound cfg →
      Follows cfg E c' (f ()) (MonadExcept.ofExcept (g c'.stack)) view') :
    Follows cfg E c (x >>= f) (MonadExcept.ofExcept (r >>= g)) view' := by
  refine hx.bind_except fun s c' h hs hc' => ?_
  obtain rfl : c'.stack = s := hs
  exact hf c' h hc'

end Plain

theorem ofExcept {x : Except Fault α} (hc : c.Sound cfg) (he : ∀ e, x = .error e → E e) :
    Follows cfg E c (Watched.ofExcept x) (MonadExcept.ofExcept x) fun a => (a, c.stack) := by
  cases x with
  | ok a => exact .pure hc rfl
  | error e => exact .fail hc (he e rfl)

theorem charge {price : Except Fault Datum} (hc : c.Sound cfg)
    (he : ∀ m e m', Meter.chargePrice price m = .error e m' → E e) :
    Follows cfg E c (Watched.charge price) (Meter.chargePrice price) fun _ => ((), c.stack) := by
  unfold Follows
  cases h : Meter.chargePrice price c.meter with
  | ok u m => exact ⟨{ c with meter := m }, by simp [Watched.charge, h], rfl, rfl, hc⟩
  | error e m => exact ⟨{ c with meter := m }, by simp [Watched.charge, h], rfl, hc, he _ e m h⟩

section Stack

variable {use : StackUse} (hc : c.Sound cfg)
include hc

theorem take (hne : c.stack ≠ []) :
    Follows cfg E c Watched.take (MonadExcept.ofExcept (c.stack.pop use)) id := by
  obtain ⟨m, s, past⟩ := c
  cases s with
  | nil => exact absurd rfl hne
  | cons t s =>
    have hl := hc.length_le
    have hs := List.forall_mem_cons.mp hc.built
    exact ⟨_, rfl, rfl, rfl, hc.replace (Nat.le_of_succ_le hl) hs.2⟩

variable (hE : ∀ e : Fault, e.kind = .structural → E e)
include hE

theorem push {t : Tree} (ht : t.Built cfg) :
    Follows cfg E c (Watched.push cfg t) (MonadExcept.ofExcept (c.stack.push cfg t))
      fun s => ((), s) := by
  refine congr (z := if c.stack.length < cfg.maxStackDepth then
    Watched.replace (t :: c.stack) else Watched.fail (.stackOverflow cfg.maxStackDepth)) rfl ?_
  rw [Stack.push]
  by_cases hl : c.stack.length < cfg.maxStackDepth
  · rw [if_pos hl, if_pos hl]
    exact ⟨_, rfl, rfl, rfl, hc.replace hl (List.forall_mem_cons.mpr ⟨ht, hc.built⟩)⟩
  · rw [if_neg hl, if_neg hl]
    exact .fail hc (hE _ rfl)

/-- With too few entries it ends here, and else goes on with what follows. -/
theorem require {n : Nat} {x : Watched α} {y : Metered β} {view : β → α × Stack}
    (hfew : c.stack.length < n →
      y c.meter = .error (.stackUnderflow use n c.stack.length) c.meter)
    (henough : n ≤ c.stack.length → Follows cfg E c x y view) :
    Follows cfg E c (Watched.require use n >>= fun _ => x) y view := by
  have hrun : Watched.require use n c = (if c.stack.length < n then
      Watched.fail (.stackUnderflow use n c.stack.length) else Pure.pure ()) c := rfl
  unfold Follows at henough ⊢
  by_cases hn : c.stack.length < n
  · rw [if_pos hn] at hrun
    rw [hfew hn]
    exact ⟨c, bind_run_of_error hrun, rfl, hc, hE _ rfl⟩
  · rw [if_neg hn] at hrun
    rw [bind_run_of_ok (hrun.trans (pure_run () c))]
    exact henough (Nat.le_of_not_lt hn)

theorem takeCell (hne : c.stack ≠ []) :
    Follows cfg E c Watched.takeCell (MonadExcept.ofExcept (c.stack.popCell use)) id := by
  have htake : Follows cfg E c Watched.take (MonadExcept.ofExcept (c.stack.pop use)) id := take hc hne
  refine htake.bind_pair fun t c' _ hc' => ?_
  cases t with
  | cell v => exact .pure hc' rfl
  | _ => exact .fail hc' (hE _ rfl)

theorem pop : Follows cfg E c (Watched.pop use) (MonadExcept.ofExcept (c.stack.pop use)) id := by
  refine require hc hE (fun h => ?_) fun h => take hc (List.ne_nil_of_length_pos h)
  rw [List.length_eq_zero_iff.mp (Nat.lt_one_iff.mp h)]
  rfl

theorem popCell :
    Follows cfg E c (Watched.popCell use) (MonadExcept.ofExcept (c.stack.popCell use)) id := by
  refine require hc hE (fun h => ?_) fun h => takeCell hc hE (List.ne_nil_of_length_pos h)
  rw [List.length_eq_zero_iff.mp (Nat.lt_one_iff.mp h)]
  rfl

end Stack

end Follows

end Follows

end AlignedLedger
