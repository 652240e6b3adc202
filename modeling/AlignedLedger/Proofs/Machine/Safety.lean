import AlignedLedger.Proofs.Config
import AlignedLedger.Proofs.Fault
import AlignedLedger.Proofs.Machine.Built
import AlignedLedger.Proofs.Machine.Course

/-! Watched runs follow those that are not, instruction by instruction: what is asked before entries are
taken is enough for all that are taken. So a run never takes an entry that is not there, keeps to the
bounds of the stack, and stops only at faults that can be named beforehand. -/

namespace AlignedLedger

/-- Operands are of the kind that they should have. What is no instruction at all may stand anywhere. -/
def Step.WellTyped [Memory] (cfg : Config) : Step → Prop
  | instr (.push _ t) => t.Built cfg
  | instr _ => True
  | foreign _ => True
  | _ => False

/-- What is charged at these rates is refused only with faults that are looked for. -/
structure Tariff.StopsWithin [Memory] (rates : Tariff) (E : Fault → Prop) : Prop where
  instr : ∀ i m e m', Meter.chargePrice (rates.costOf i) m = .error e m' → E e
  bytes : ∀ (n : Nat) m e m', Meter.chargePrice (rates.perByteWritten.times n) m = .error e m' → E e

namespace Meter

/-- A price that is a number is refused only for the limit. -/
theorem kind_of_chargePrice {n : Nat} {m m' : Meter} {e : Fault}
    (h : chargePrice (.ok (.int n)) m = .error e m') : e.kind = .costLimit := by
  have hspend : spend ⟨n, none⟩ m = .error e m' := h
  unfold spend at hspend
  split at hspend
  · split at hspend
    · cases hspend
    · cases hspend
      rfl
  · cases hspend

end Meter

section

variable [Memory]

theorem CostModel.Payable.stopsWithin {prices : CostModel} (hp : prices.Payable) {E : Fault → Prop}
    (hlimit : ∀ e : Fault, e.kind = .costLimit → E e) : prices.tariff.StopsWithin E where
  instr i m e m' h := by
    obtain ⟨n, hn⟩ := hp.exists_price i
    exact hlimit e (Meter.kind_of_chargePrice (hn ▸ h))
  bytes size m e m' h := by
    obtain ⟨n, hn⟩ := hp.exists_price_of_bytes size
    exact hlimit e (Meter.kind_of_chargePrice (hn ▸ h))

namespace Follows

variable {cfg : Config} {E : Fault → Prop} {c : Course}

/-- An instruction that reads nothing goes on record as it is. -/
theorem record {x : Watched Unit} {r : Except Fault Stack} {i : Instr}
    (hx : Follows cfg E c x (MonadExcept.ofExcept r) fun s => ((), s)) :
    Follows cfg E c (do
        x
        Pure.pure ((none, i) : Option AlignedValue × Instr))
      (do
        let s ← MonadExcept.ofExcept r
        Pure.pure (⟨s, none, i⟩ : Effect)) fun e => ((e.read, e.executed), e.stack) :=
  hx.bind fun s c' _ hs hc' => .pure hc' (by rw [hs])

variable (hc : c.Sound cfg) (hE : ∀ e : Fault, e.kind = .structural → E e)
include hc hE

theorem dup (n : Int) :
    Follows cfg E c (Watched.dup cfg n) (MonadExcept.ofExcept (c.stack.dup cfg n)) fun s => ((), s) := by
  cases n with
  | negSucc n =>
    have hdup : c.stack.dup cfg (.negSucc n) = .error (.dupDepth (.negSucc n) c.stack.length) := rfl
    rw [hdup]
    exact congr (z := Watched.fail _) rfl (.fail hc (hE _ rfl))
  | ofNat i =>
    cases hi : c.stack[i]? with
    | none =>
      have hdup : c.stack.dup cfg (.ofNat i) = .error (.dupDepth (.ofNat i) c.stack.length) := by
        simp only [Stack.dup, hi]
      rw [hdup]
      refine congr ?_ (.fail hc (hE _ rfl))
      simp only [Watched.dup, bind_run_of_ok (get_run c), hi]
    | some t =>
      have hdup : c.stack.dup cfg (.ofNat i) = c.stack.push cfg t := by simp only [Stack.dup, hi]
      rw [hdup]
      refine congr ?_ (push hc hE (hc.built t (List.mem_of_getElem? hi)))
      simp only [Watched.dup, bind_run_of_ok (get_run c), hi]

theorem pathKeys (path : List PathKey) :
    Follows cfg E c (Watched.pathKeys path) (MonadExcept.ofExcept (c.stack.pathKeys path)) id := by
  induction path generalizing c with
  | nil => exact .pure hc rfl
  | cons step path ih =>
    cases step with
    | literal k => exact (ih hc).bind_pair fun ks c' _ hc' => .pure hc' rfl
    | stack =>
      refine (popCell hc hE).bind_pair fun k c' _ hc' => ?_
      exact (ih hc').bind_pair fun ks c'' _ hc'' => .pure hc'' rfl

theorem recordedWalk {ks : List AlignedValue} {t : Tree} (ht : t.Built cfg)
    (hks : ∀ k ∈ ks, ∀ e, k.requestBinary = .error e → E e) :
    Follows cfg E c (Watched.recordedWalk cfg ks t)
      (MonadExcept.ofExcept (c.stack.recordedWalk cfg ks t)) id := by
  induction ks generalizing c t with
  | nil => exact .pure hc rfl
  | cons k ks ih =>
    obtain ⟨hk, hks⟩ := List.forall_mem_cons.mp hks
    -- The container and its key both stay on the stack, and each of them may find it full.
    refine (push hc hE ht.orNewMap).bind_stack fun c₁ _ hc₁ => ?_
    have hcell : ∀ e, Tree.makeCell cfg k = .error e → E e := fun e he =>
      (Tree.kind_of_makeCell he).elim (hE e) (hk e)
    refine (ofExcept hc₁ hcell).bind_value fun key c₂ hkey hs hc₂ => ?_
    rw [← hs]
    refine (push hc₂ hE (.cell hkey)).bind_stack fun c₃ _ hc₃ => ?_
    have hchild : ∀ e, t.orNewMap.childOrNull k = .error e → E e := fun e he =>
      hE e (Tree.kind_of_childOrNull he)
    refine (ofExcept hc₃ hchild).bind_value fun child c₄ hchild hs hc₄ => ?_
    rw [← hs]
    exact ih hc₄ (ht.orNewMap.childOrNull hchild) hks

theorem walk {ks : List AlignedValue} {t : Tree} :
    Follows cfg E c (Watched.ofExcept (t.walk ks))
      (MonadExcept.ofExcept ((t.walk ks).map fun u => (u, c.stack))) id := by
  cases h : t.walk ks with
  | error e => exact .fail hc (hE e (Tree.kind_of_walk h))
  | ok u => exact .pure hc rfl

theorem popeq (result : Option AlignedValue) :
    Follows cfg E c (Watched.popeq result) (MonadExcept.ofExcept (c.stack.popeq result)) id := by
  refine (popCell hc hE).bind_pair fun v c' _ hc' => ?_
  cases result with
  | none => exact .pure hc' rfl
  | some expected =>
    dsimp only
    by_cases he : expected = v
    · rw [if_pos he, if_pos he]
      exact .pure hc' rfl
    · rw [if_neg he, if_neg he]
      exact .fail hc' (hE _ rfl)

theorem insOperands (n : Int) :
    Follows cfg E c (Watched.insOperands n) (MonadExcept.ofExcept (c.stack.insOperands n)) id := by
  cases n with
  | negSucc n => exact .fail hc (hE _ rfl)
  | ofNat n =>
    refine require hc hE (fun hn => ?_) fun hn => ?_
    · rw [Stack.insOperands, Stack.require, if_pos hn]
      rfl
    · rw [Stack.insOperands, Stack.require, if_neg (Nat.not_lt.mpr hn), ok_bind]
      exact take hc (List.ne_nil_of_length_pos (by omega))

theorem addi (n : Int) :
    Follows cfg E c (Watched.addi cfg n) (MonadExcept.ofExcept (c.stack.addi cfg n)) fun s => ((), s) := by
  cases n with
  | negSucc n =>
    have haddi : c.stack.addi cfg (.negSucc n) = .error .negativeImmediate := rfl
    rw [haddi]
    exact .fail hc (hE _ rfl)
  | ofNat n =>
    refine (popCell hc hE).bind_pair fun v c' hv hc' => ?_
    dsimp only
    cases hw : v.addNat n with
    | error cause => exact .fail hc' (hE _ rfl)
    | ok w =>
      -- The sum stands in the same slot, so there is no cell that it would not go into.
      have hcap : w.binaryLength ≤ cfg.maxCellBytes := by
        rw [AlignedValue.binaryLength_addNat hw]
        exact hc.binaryLength_of_popCell hv
      have hmake : Tree.makeCell cfg w = .ok (.cell w) := Tree.makeCell_eq_ok.mpr ⟨hcap, rfl⟩
      simp only [hmake, ok_bind]
      exact push hc' hE (Tree.built_cell_iff.mpr hcap)

section Room

variable (hroom : cfg.maxCellBytes ≤ Memory.available)
include hroom

theorem idx {pushPath : Bool} {path : List PathKey}
    (hpath : pushPath = true → ∀ k, .literal k ∈ path → ∀ e, k.requestBinary = .error e → E e) :
    Follows cfg E c (Watched.idx cfg pushPath path) (MonadExcept.ofExcept (c.stack.idx cfg pushPath path))
      fun s => ((), s) := by
  unfold Watched.idx Stack.idx
  by_cases hp : cfg.maxPathLength < path.length
  · simp only [if_pos hp]
    exact ⟨c, rfl, rfl, hc, hE _ rfl⟩
  · simp only [if_neg hp]
    refine (pathKeys hc hE path).bind_pair fun ks c₁ hks hc₁ => ?_
    refine (pop hc₁ hE).bind_pair fun t c₂ ht hc₂ => ?_
    have ht := hc₁.built_of_pop ht
    cases pushPath with
    | true =>
      -- Keys out of cells have room; only those that are written in the path may lack it.
      have hrequest : ∀ k ∈ ks, ∀ e, k.requestBinary = .error e → E e := by
        intro k hk e he
        rcases Stack.binaryLength_of_pathKeys hc.built hks k hk with hk | hk
        · exact hpath rfl k hk e he
        · rw [AlignedValue.requestBinary_eq_ok.mpr (hk.trans hroom)] at he
          cases he
      refine (recordedWalk hc₂ hE ht hrequest).bind_pair fun u c₃ hu hc₃ => ?_
      exact push hc₃ hE (Stack.built_of_recordedWalk ht hu)
    | false =>
      refine (walk hc₂ hE).bind_pair fun u c₃ hu hc₃ => ?_
      obtain ⟨x, hx, heq⟩ := map_eq_ok.mp hu
      obtain ⟨rfl, -⟩ := Prod.mk.inj heq
      exact push hc₃ hE (ht.walk hx)

/-- Enough entries for all that is put back are enough for each step of it. -/
theorem rebuild {n : Nat} {v : Tree} (hn : 2 * n ≤ c.stack.length) (hv : v.Built cfg) :
    Follows cfg E c (Watched.rebuild cfg n v)
      (MonadExcept.ofExcept (c.stack.rebuild cfg n v)) id := by
  induction n generalizing c v with
  | zero => exact .pure hc rfl
  | succ n ih =>
    have hkey : Follows cfg E c Watched.takeCell (MonadExcept.ofExcept (c.stack.popCell .ins)) id :=
      takeCell hc hE (List.ne_nil_of_length_pos (by omega))
    refine hkey.bind_pair fun key c₁ hkey hc₁ => ?_
    have hl₁ : c.stack.length = c₁.stack.length + 1 := by rw [Stack.popCell_eq_ok.mp hkey, List.length_cons]
    have hcontainer : Follows cfg E c₁ Watched.take (MonadExcept.ofExcept (c₁.stack.pop .ins)) id :=
      take hc₁ (List.ne_nil_of_length_pos (by omega))
    refine hcontainer.bind_pair fun t c₂ ht hc₂ => ?_
    have hl₂ : c₁.stack.length = c₂.stack.length + 1 := by rw [Stack.pop_eq_ok.mp ht, List.length_cons]
    have hrequest : key.requestBinary = .ok () :=
      AlignedValue.requestBinary_eq_ok.mpr ((hc.binaryLength_of_popCell hkey).trans hroom)
    have hinsert : ∀ e, t.insert cfg key v = .error e → E e := fun e he =>
      hE e (Tree.kind_of_insert hrequest he)
    refine (ofExcept hc₂ hinsert).bind_value fun w c₃ hw hs hc₃ => ?_
    rw [← hs] at hl₂ ⊢
    -- Two entries are gone, so those that are left are enough for the rounds that are left.
    exact ih hc₃ (by omega) ((hc₁.built_of_pop ht).insert hv hw)

theorem ins {n : Nat} {v : Tree} (hn : 2 * n ≤ c.stack.length) (hv : v.Built cfg) :
    Follows cfg E c (Watched.ins cfg n v) (MonadExcept.ofExcept (c.stack.ins cfg n v)) fun s => ((), s) := by
  refine (rebuild hc hE hroom hn hv).bind_pair fun u c' hu hc' => ?_
  exact push hc' hE (Stack.built_of_rebuild hc.built hv hu)

section Paid

variable {rates : Tariff} (hrates : rates.StopsWithin E)
include hrates

theorem perform {i : Instr} (hi : (Step.instr i).WellTyped cfg)
    (hkeys : ∀ persist path k, i = .idx persist true path → .literal k ∈ path →
      ∀ e, k.requestBinary = .error e → E e) :
    Follows cfg E c (Watched.perform cfg rates i)
      (Machine.perform cfg rates i c.stack) fun e => ((e.read, e.executed), e.stack) := by
  cases i with
  | push persist t => exact (push hc hE hi).record
  | dup n => exact (dup hc hE n).record
  | idx persist pushPath path =>
    refine (idx hc hE hroom ?_).record
    rintro rfl k hk
    exact hkeys persist path k rfl hk
  | popeq persist result =>
    refine (popeq hc hE result).bind fun ⟨v, s⟩ c' _ hs hc' => ?_
    obtain rfl : c'.stack = s := hs
    exact .pure hc' rfl
  | addi n => exact (addi hc hE n).record
  | ins persist n =>
    refine (insOperands hc hE n).bind fun ⟨v, s⟩ c₁ hv hs hc₁ => ?_
    obtain rfl : c₁.stack = s := hs
    obtain ⟨hv, -⟩ := ofExcept_run_eq_ok.mp hv
    cases n with
    | negSucc n => cases hv
    | ofNat n =>
      obtain ⟨htop, hn⟩ := Stack.insOperands_eq_ok.mp hv
      have hbuilt : v.Built cfg := (List.forall_mem_cons.mp (htop ▸ hc.built)).1
      refine (charge hc₁ (hrates.bytes v.storageSize)).bind fun _ c₂ _ hs hc₂ => ?_
      obtain hs : c₂.stack = c₁.stack := hs
      dsimp only [id]
      rw [← hs] at hn ⊢
      exact (ins hc₂ hE hroom hn hbuilt).record

theorem step {op : Step} (position : Nat) (hop : op.WellTyped cfg)
    (hkeys : ∀ persist path k, op = .instr (.idx persist true path) → .literal k ∈ path →
      ∀ e, k.requestBinary = .error e → E e) :
    Follows cfg E c (Watched.step cfg rates position op)
      (Machine.step cfg rates position op c.stack)
      fun e => ((e.read, e.executed), e.stack) := by
  cases op with
  | instr i =>
    refine (charge hc (hrates.instr i)).bind fun _ c' _ hs hc' => ?_
    obtain hs : c'.stack = c.stack := hs
    rw [← hs]
    refine perform hc' hE hroom hrates hop fun persist path k hi => ?_
    exact hkeys persist path k (congrArg Step.instr hi)
  | foreign d => exact .fail hc (hE _ rfl)
  | _ => cases hop

theorem steps {p : Program} (position : Nat) (hp : ∀ op ∈ p, op.WellTyped cfg)
    (hkeys : ∀ persist path k, .instr (.idx persist true path) ∈ p → .literal k ∈ path →
      ∀ e, k.requestBinary = .error e → E e) :
    Follows cfg E c (Watched.steps cfg rates position p)
      (Machine.steps cfg rates position p c.stack) fun e => (e.2, e.1) := by
  induction p generalizing c position with
  | nil => exact .pure hc rfl
  | cons op p ih =>
    obtain ⟨hop, hp⟩ := List.forall_mem_cons.mp hp
    have hstep := step hc hE hroom hrates position hop fun persist path k h =>
      hkeys persist path k (h ▸ List.mem_cons_self)
    refine hstep.bind fun e c' _ hs hc' => ?_
    obtain hs : c'.stack = e.stack := hs
    rw [← hs]
    have hrest := ih hc' (position + 1) hp fun persist path k h =>
      hkeys persist path k (List.mem_cons_of_mem _ h)
    refine hrest.bind fun ⟨s, reads, executed⟩ c'' _ hs hc'' => ?_
    exact .pure hc'' (by rw [hs])

/-- A watched run ends as the other one does, with its last stack and the new root on it. -/
theorem run {root : Tree} {p : Program} (hroot : c.stack = [root]) (hp : ∀ op ∈ p, op.WellTyped cfg)
    (hkeys : ∀ persist path k, .instr (.idx persist true path) ∈ p → .literal k ∈ path →
      ∀ e, k.requestBinary = .error e → E e) :
    Follows cfg E c (Watched.run cfg rates p) (Machine.run cfg rates root p) fun o => (o, [o.tree]) := by
  refine (Follows.get hc).bind fun before c₁ hbefore hs hc₁ => ?_
  obtain ⟨rfl, hm⟩ := EStateM.Result.ok.inj hbefore
  obtain hs : c₁.stack = c.stack := hs
  rw [← hroot, ← hs]
  refine (steps hc₁ hE hroom hrates 0 hp hkeys).bind fun ⟨s, reads, executed⟩ c₂ _ hs hc₂ => ?_
  obtain rfl : c₂.stack = s := hs
  refine (Follows.get hc₂).bind fun after c₃ hafter hs hc₃ => ?_
  obtain ⟨rfl, hm⟩ := EStateM.Result.ok.inj hafter
  obtain hs : c₃.stack = c₂.stack := hs
  dsimp only
  cases hstack : c₂.stack with
  | nil => exact .fail hc₃ (hE _ rfl)
  | cons t s =>
    cases s with
    | nil => exact .pure hc₃ (by rw [hs, hstack])
    | cons u s => exact .fail hc₃ (hE _ rfl)

end Paid

end Room

end Follows

/-- A walk that is recorded has a key written in its path that there is no room for. -/
def Program.LacksRoom (p : Program) : Prop :=
  ∃ persist path k, .instr (.idx persist true path) ∈ p ∧ .literal k ∈ path ∧
    Memory.available < k.binaryLength

/-- The faults that a program stops at, before it comes to telling them. -/
def Program.MayStopAt (p : Program) (e : Fault) : Prop :=
  e.kind = .structural ∨ e.kind = .costLimit ∨ (e.kind = .overflow ∨ e.kind = .memory) ∧ p.LacksRoom

end

namespace Machine

section

variable [Memory]

variable {cfg : Config} {prices : CostModel} {root : Tree} {p : Program}

theorem run_follows {c : Course} (hc : c.Sound cfg) (hroot : c.stack = [root])
    (hroom : cfg.maxCellBytes ≤ Memory.available) (hprices : prices.Payable)
    (hp : ∀ op ∈ p, op.WellTyped cfg) :
    Follows cfg p.MayStopAt c (Watched.run cfg prices.tariff p) (run cfg prices.tariff root p)
      fun o => (o, [o.tree]) := by
  have hE : ∀ e : Fault, e.kind = .structural → p.MayStopAt e := fun e he => .inl he
  have hrates := hprices.stopsWithin (E := p.MayStopAt) fun e he => .inr (.inl he)
  refine .run hc hE hroom hrates hroot hp fun persist path k hidx hk e he => ?_
  obtain ⟨hkind, hlarge⟩ := AlignedValue.kind_of_requestBinary he
  exact .inr (.inr ⟨hkind, persist, path, k, hidx, hk, hlarge⟩)

/-- A run that starts from a tree that the constructors made, with operands of the right kind and with
prices not below zero, can be watched without its coming to another end. At no point of it are there more
entries than the stack may hold, each of them is a tree that the constructors made, and none is taken off
an empty stack. What stops it is told as a structural fault or as the limit of cost, unless the message
would have to spell out a number that is too long, or there is no room for a key written in a path. What
is asked of the configuration holds of each that an environment sets. -/
theorem run_safe (hdepth : 1 ≤ cfg.maxStackDepth) (hroom : cfg.maxCellBytes ≤ Memory.available)
    (hprices : prices.Payable) (hroot : root.Built cfg) (hp : ∀ op ∈ p, op.WellTyped cfg) (m : Meter) :
    ∃ c : Course, (∀ s ∈ c.stack :: c.past, s.length ≤ cfg.maxStackDepth ∧ ∀ t ∈ s, t.Built cfg) ∧
      ((∃ o, Watched.run cfg prices.tariff p ⟨m, [root], []⟩ = .ok o c ∧ c.stack = [o.tree] ∧
          run cfg prices.tariff root p m = .ok o c.meter) ∨
        ∃ e, Watched.run cfg prices.tariff p ⟨m, [root], []⟩ = .error (.fault e) c ∧
          run cfg prices.tariff root p m = .error e c.meter ∧
          (e.told.kind = .structural ∨ e.told.kind = .costLimit ∨
            e.told.kind = .badValue ∧ (∃ d ∈ e.spelled, d.isWritable = false) ∨
            (e.told.kind = .overflow ∨ e.told.kind = .memory) ∧ p.LacksRoom)) := by
  have hc : Course.Sound cfg ⟨m, [root], []⟩ := by
    simpa [Course.Sound] using ⟨hdepth, hroot⟩
  have hfollows : Follows cfg p.MayStopAt ⟨m, [root], []⟩ (Watched.run cfg prices.tariff p)
      (run cfg prices.tariff root p) fun o => (o, [o.tree]) := run_follows hc rfl hroom hprices hp
  unfold Follows at hfollows
  cases hrun : run cfg prices.tariff root p m with
  | ok o m' =>
    simp only [hrun] at hfollows
    obtain ⟨c, hwatched, hs, rfl, hsound⟩ := hfollows
    exact ⟨c, hsound, .inl ⟨o, hwatched, hs, rfl⟩⟩
  | error e m' =>
    simp only [hrun] at hfollows
    obtain ⟨c, hwatched, rfl, hsound, he⟩ := hfollows
    refine ⟨c, hsound, .inr ⟨e, hwatched, rfl, ?_⟩⟩
    by_cases hall : e.spelled.all Datum.isWritable = true
    · have htold : e.told = e := if_pos hall
      rw [htold]
      rcases he with he | he | he
      · exact .inl he
      · exact .inr (.inl he)
      · exact .inr (.inr (.inr he))
    · have htold : e.told = .badValue := if_neg hall
      rw [htold]
      exact .inr (.inr (.inl ⟨rfl, by simpa using hall⟩))

end

/-- Something is put into an array, and what follows looks for it in a place beyond the end. -/
theorem run_safe_past_end :
    let cfg := Config.ofEnvironment fun _ => none
    let zero : AlignedValue := ⟨[⟨.bytes 1, [], by decide⟩]⟩
    let two : AlignedValue := ⟨[⟨.bytes 1, [2], by decide⟩]⟩
    let root : Tree := .array [.cell zero]
    let p : Program := [.instr (.idx false true [.literal zero]), .instr (.popeq false none),
      .instr (.push true (.cell two)), .instr (.dup 0), .instr (.popeq false (some two)),
      .instr (.ins true 1), .instr (.idx false true [.literal two]), .foreign .null]
    ∃ c, Watched.run cfg CostModel.standard.tariff p ⟨.start none, [root], []⟩ =
        .error (.fault (.indexOutOfRange 2 1)) c ∧
      ∀ s ∈ c.stack :: c.past, s.length ≤ 256 := by
  intro cfg zero two root p
  have hzero : (Tree.cell zero).Built cfg := Tree.built_cell_iff.mpr (by decide +kernel)
  have htwo : (Tree.cell two).Built cfg := Tree.built_cell_iff.mpr (by decide +kernel)
  have hroot : root.Built cfg := Tree.built_array_iff.mpr ⟨by decide +kernel, by simpa using hzero⟩
  have hp : ∀ op ∈ p, op.WellTyped cfg := by simpa [p, Step.WellTyped] using htwo
  obtain ⟨m, hrun⟩ : ∃ m, run cfg CostModel.standard.tariff root p (.start none) =
      .error (.indexOutOfRange 2 1) m := ⟨_, rfl⟩
  obtain ⟨c, hsound, ⟨o, -, -, ho⟩ | ⟨e, hwatched, he, -⟩⟩ := run_safe (Config.one_le_maxStackDepth _)
    (Config.maxCellBytes_le_available _) CostModel.payable_standard hroot hp (.start none)
  · cases hrun.symm.trans ho
  · cases hrun.symm.trans he
    exact ⟨c, hwatched, fun s hs => (hsound s hs).1⟩

/-- The index that a long key names is too long for the message that it is out of range. -/
theorem long_index_not_told :
    ¬ ∀ (env : Environment) (prices : CostModel) (root : Tree) (p : Program) (m m' : Meter) (e : Fault),
      prices.Payable → root.Built (.ofEnvironment env) →
      (∀ op ∈ p, op.WellTyped (.ofEnvironment env)) →
      run (.ofEnvironment env) prices.tariff root p m = .error e m' →
      e.told.kind = .structural ∨ e.told.kind = .costLimit := by
  intro h
  let cfg := Config.ofEnvironment fun _ => none
  let long : AlignedValue := ⟨[⟨.bytes 1786, List.replicate 1786 255, by decide +kernel⟩]⟩
  let p : Program := [.instr (.idx false false [.literal long])]
  have hroot : (Tree.array [.null]).Built cfg :=
    Tree.built_array_iff.mpr ⟨by decide +kernel, by simpa using .null⟩
  have hp : ∀ op ∈ p, op.WellTyped cfg := by simp [p, Step.WellTyped]
  have hkind : (match run cfg CostModel.standard.tariff (.array [.null]) p (.start none) with
      | .error e _ => decide (e.told.kind = .badValue)
      | .ok _ _ => false) = true := by decide +kernel
  cases hrun : run cfg CostModel.standard.tariff (.array [.null]) p (.start none) with
  | ok o m' =>
    rw [hrun] at hkind
    cases hkind
  | error e m' =>
    rw [hrun] at hkind
    have htold : e.told.kind = .badValue := of_decide_eq_true hkind
    have hclaim := h _ _ _ p _ m' e CostModel.payable_standard hroot hp hrun
    simp [htold] at hclaim

end Machine

end AlignedLedger
