import AlignedLedger.Proofs.Config
import AlignedLedger.Proofs.Machine.Unmetered
import AlignedLedger.Proofs.Tree.Constructors

/-! Caps only guard. Under narrower caps a program comes to the end that it comes to under wider ones, or
it stops at one of the narrower caps. So whatever succeeds under narrow caps succeeds just so under wide
ones. -/

namespace AlignedLedger

namespace Config

/-- No cap of the first configuration is wider than that of the second. -/
structure Within (c d : Config) : Prop where
  stack : c.maxStackDepth ≤ d.maxStackDepth
  path : c.maxPathLength ≤ d.maxPathLength
  array : c.maxArrayLength ≤ d.maxArrayLength
  cell : c.maxCellBytes ≤ d.maxCellBytes

/-- The faults that tell of a cap. -/
inductive Refuses (c : Config) : Fault → Prop
  | stack : Refuses c (.stackOverflow c.maxStackDepth)
  | path (steps : Nat) : Refuses c (.pathTooLong steps c.maxPathLength)
  | array : Refuses c (.arrayTooLong c.maxArrayLength)
  | cell : Refuses c (.cellTooLarge c.maxCellBytes)

variable {c d : Config} {α β : Type}

/-- No cap is too long a number to be told. -/
theorem Refuses.kind_told {e : Fault} (h : c.Refuses e) : e.told.kind = .structural := by
  cases h <;> rfl

/-- The first computation comes to the same end as the second, unless a cap stops it. -/
def Guards (c : Config) (x y : Except Fault α) : Prop :=
  x = y ∨ ∃ e, x = .error e ∧ c.Refuses e

namespace Guards

variable {x y : Except Fault α}

theorem refl (x : Except Fault α) : c.Guards x x := .inl rfl

theorem of_refuses {e : Fault} (h : c.Refuses e) : c.Guards (.error e) y := .inr ⟨e, rfl, h⟩

theorem bind {f g : α → Except Fault β} (h : c.Guards x y) (hfg : ∀ a, c.Guards (f a) (g a)) :
    c.Guards (x >>= f) (y >>= g) := by
  obtain rfl | ⟨e, rfl, he⟩ := h
  · cases x with
    | ok a => exact hfg a
    | error e => exact refl _
  · exact of_refuses he

theorem map (h : c.Guards x y) (f : α → β) : c.Guards (x.map f) (y.map f) := by
  obtain rfl | ⟨e, rfl, he⟩ := h
  · exact refl _
  · exact of_refuses he

/-- Where the narrower cap lets something pass, the wider one does. -/
theorem check {p q : Prop} [Decidable p] [Decidable q] {e f : Fault} (hpq : p → q) (he : c.Refuses e)
    (a : α) : c.Guards (if p then .ok a else .error e) (if q then .ok a else .error f) := by
  by_cases hp : p
  · rw [if_pos hp, if_pos (hpq hp)]
    exact refl _
  · rw [if_neg hp]
    exact of_refuses he

theorem eq_ok {a : α} (h : c.Guards x y) (hx : x = .ok a) : y = .ok a := by
  obtain rfl | ⟨e, rfl, -⟩ := h
  · exact hx
  · cases hx

end Guards

/-- The same for computations that are charged for; what was used is the same too. -/
def GuardsRun (c : Config) (x y : Metered α) : Prop :=
  ∀ m, x m = y m ∨ ∃ e m', x m = .error e m' ∧ c.Refuses e

namespace GuardsRun

theorem refl (x : Metered α) : c.GuardsRun x x := fun _ => .inl rfl

theorem ofExcept {x y : Except Fault α} (h : c.Guards x y) :
    c.GuardsRun (MonadExcept.ofExcept x) (MonadExcept.ofExcept y) := by
  intro m
  obtain rfl | ⟨e, rfl, he⟩ := h
  · exact .inl rfl
  · exact .inr ⟨e, m, rfl, he⟩

theorem bind {x y : Metered α} {f g : α → Metered β} (h : c.GuardsRun x y)
    (hfg : ∀ a, c.GuardsRun (f a) (g a)) : c.GuardsRun (x >>= f) (y >>= g) := by
  intro m
  obtain hm | ⟨e, m', hm, he⟩ := h m
  · cases hy : y m with
    | ok a r =>
      rw [bind_run_of_ok (hm.trans hy), bind_run_of_ok hy]
      exact hfg a r
    | error e r =>
      rw [bind_run_of_error (hm.trans hy), bind_run_of_error hy]
      exact .inl rfl
  · exact .inr ⟨e, m', bind_run_of_error hm, he⟩

end GuardsRun

end Config

open Config

section Guarded

variable {c d : Config} (h : c.Within d)

include h

namespace Tree

theorem makeArray_guards (items : List Tree) : c.Guards (makeArray c items) (makeArray d items) :=
  .check (fun hl => hl.trans h.array) .array _

variable [Memory]

/-- A value for which there is no room is too large for a cell under both caps, and both tell of the
room. -/
theorem makeCell_guards (hroom : d.maxCellBytes ≤ Memory.available) (v : AlignedValue) :
    c.Guards (makeCell c v) (makeCell d v) := by
  by_cases hv : v.binaryLength ≤ c.maxCellBytes
  · have hw : v.binaryLength ≤ d.maxCellBytes := hv.trans h.cell
    rw [makeCell, makeCell, if_pos hv, if_pos hw]
    exact .refl _
  · rw [makeCell, if_neg hv]
    cases hr : v.requestBinary with
    | ok _ =>
      rw [cellRefusal, hr]
      exact .of_refuses .cell
    | error e =>
      have hlarge : ¬ v.binaryLength ≤ d.maxCellBytes := by
        intro hw
        have hfits := AlignedValue.requestBinary_eq_ok.mpr (hw.trans hroom)
        cases hr.symm.trans hfits
      rw [makeCell, if_neg hlarge, cellRefusal, cellRefusal, hr]
      exact .refl _

theorem insert_guards (t : Tree) (key : AlignedValue) (v : Tree) :
    c.Guards (t.insert c key v) (t.insert d key v) := by
  cases t with
  | array items => exact (Guards.refl _).bind fun i => makeArray_guards h _
  | _ => exact .refl _

end Tree

namespace Stack

theorem push_guards (t : Tree) (s : Stack) : c.Guards (push c t s) (push d t s) :=
  .check (fun hs => Nat.lt_of_lt_of_le hs h.stack) .stack _

theorem dup_guards (n : Int) (s : Stack) : c.Guards (dup c n s) (dup d n s) := by
  cases n with
  | negSucc n => exact .refl _
  | ofNat i =>
    simp only [dup]
    cases s[i]? with
    | none => exact .refl _
    | some t => exact push_guards h t s

variable [Memory]

theorem rebuild_guards (n : Nat) (v : Tree) (s : Stack) : c.Guards (rebuild c n v s) (rebuild d n v s) := by
  induction n generalizing v s with
  | zero => exact .refl _
  | succ n ih =>
    refine (Guards.refl _).bind fun k => (Guards.refl _).bind fun container => ?_
    exact (Tree.insert_guards h _ _ _).bind fun w => ih w _

theorem ins_guards (n : Nat) (v : Tree) (s : Stack) : c.Guards (ins c n v s) (ins d n v s) :=
  (rebuild_guards h n v s).bind fun p => push_guards h p.1 p.2

section Cells

variable (hroom : d.maxCellBytes ≤ Memory.available)
include hroom

theorem recordedWalk_guards (ks : List AlignedValue) (t : Tree) (s : Stack) :
    c.Guards (recordedWalk c ks t s) (recordedWalk d ks t s) := by
  induction ks generalizing t s with
  | nil => exact .refl _
  | cons k ks ih =>
    refine (push_guards h _ _).bind fun r => (Tree.makeCell_guards h hroom k).bind fun key => ?_
    exact (push_guards h _ _).bind fun q => (Guards.refl _).bind fun child => ih child q

theorem idx_guards (pushPath : Bool) (path : List PathKey) (s : Stack) :
    c.Guards (idx c pushPath path s) (idx d pushPath path s) := by
  unfold idx
  by_cases hp : c.maxPathLength < path.length
  · rw [if_pos hp]
    exact .of_refuses (.path _)
  · have hq : ¬ d.maxPathLength < path.length := by
      have hle := h.path
      omega
    rw [if_neg hp, if_neg hq]
    refine (Guards.refl _).bind fun p => (Guards.refl _).bind fun q => ?_
    cases pushPath with
    | true => exact (recordedWalk_guards h hroom p.1 q.1 q.2).bind fun r => push_guards h r.1 r.2
    | false => exact (Guards.refl _).bind fun r => push_guards h r.1 r.2

theorem addi_guards (n : Int) (s : Stack) : c.Guards (addi c n s) (addi d n s) := by
  cases n with
  | negSucc n => exact .refl _
  | ofNat n =>
    refine (Guards.refl _).bind fun p => ?_
    dsimp only
    cases p.1.addNat n with
    | error e => exact .refl _
    | ok w => exact (Tree.makeCell_guards h hroom w).bind fun t => push_guards h t p.2

theorem perform_guards (i : Instr) (s : Stack) : c.Guards (perform c i s) (perform d i s) := by
  cases i with
  | push persist t => exact (push_guards h t s).map _
  | dup n => exact (dup_guards h n s).map _
  | idx persist pushPath path => exact (idx_guards h hroom pushPath path s).map _
  | popeq persist result => exact .refl _
  | ins persist n => exact (Guards.refl _).bind fun p => (ins_guards h _ _ _).map _
  | addi n => exact (addi_guards h hroom n s).map _

theorem looseWalk_guards (pushPath : Bool) (ks : List (AlignedValue ⊕ Datum)) (t : Tree) (s : Stack) :
    c.Guards (looseWalk c pushPath ks t s) (looseWalk d pushPath ks t s) := by
  induction ks generalizing t s with
  | nil => exact .refl _
  | cons k ks ih =>
    cases k with
    | inr k =>
      cases pushPath with
      | true => exact (push_guards h _ _).bind fun _ => .refl _
      | false => exact .refl _
    | inl k =>
      cases pushPath with
      | true => exact (recordedWalk_guards h hroom [k] t s).bind fun r => ih r.1 r.2
      | false => exact (Guards.refl _).bind fun r => ih r.1 r.2

theorem looseIdx_guards (pushPath : Bool) (path : List (PathKey ⊕ Datum)) (s : Stack) :
    c.Guards (looseIdx c pushPath path s) (looseIdx d pushPath path s) := by
  unfold looseIdx
  by_cases hp : c.maxPathLength < path.length
  · rw [if_pos hp]
    exact .of_refuses (.path _)
  · have hq : ¬ d.maxPathLength < path.length := by
      have hle := h.path
      omega
    rw [if_neg hp, if_neg hq]
    refine (Guards.refl _).bind fun p => (Guards.refl _).bind fun q => ?_
    exact (looseWalk_guards h hroom pushPath _ _ _).bind fun r => push_guards h _ _

/-- Steps that come to no end are stopped for the same reason, or by a cap before that. -/
theorem foreignFault_eq_or_refuses (op : Step) (s : Stack) :
    foreignFault c op s = foreignFault d op s ∨ c.Refuses (foreignFault c op s) := by
  cases op with
  | idxForeign persist pushPath path =>
    simp only [foreignFault]
    obtain heq | ⟨e, he, hrefuses⟩ := looseIdx_guards h hroom pushPath path s
    · rw [heq]
      exact .inl rfl
    · rw [he]
      exact .inr hrefuses
  | _ => exact .inl rfl

end Cells

end Stack

variable [Memory]

namespace Machine

variable (hroom : d.maxCellBytes ≤ Memory.available) (rates : Tariff)
include hroom

theorem perform_guards (i : Instr) (s : Stack) :
    c.GuardsRun (perform c rates i s) (perform d rates i s) := by
  cases i with
  | push persist t => exact (GuardsRun.ofExcept (Stack.push_guards h t s)).bind fun _ => .refl _
  | dup n => exact (GuardsRun.ofExcept (Stack.dup_guards h n s)).bind fun _ => .refl _
  | idx persist pushPath path =>
    exact (GuardsRun.ofExcept (Stack.idx_guards h hroom pushPath path s)).bind fun _ => .refl _
  | popeq persist result => exact .refl _
  | ins persist n =>
    refine (GuardsRun.refl _).bind fun p => (GuardsRun.refl _).bind fun _ => ?_
    exact (GuardsRun.ofExcept (Stack.ins_guards h _ _ _)).bind fun _ => .refl _
  | addi n => exact (GuardsRun.ofExcept (Stack.addi_guards h hroom n s)).bind fun _ => .refl _

theorem throw_foreignFault_guards (op : Step) (s : Stack) :
    c.GuardsRun (throw (s.foreignFault c op) : Metered Effect) (throw (s.foreignFault d op)) := by
  intro m
  obtain heq | hrefuses := Stack.foreignFault_eq_or_refuses h hroom op s
  · rw [heq]
    exact .inl rfl
  · exact .inr ⟨_, m, rfl, hrefuses⟩

theorem step_guards (position : Nat) (op : Step) (s : Stack) :
    c.GuardsRun (step c rates position op s) (step d rates position op s) := by
  cases op with
  | instr i => exact (GuardsRun.refl _).bind fun _ => perform_guards h hroom rates i s
  | foreign datum => exact .refl _
  | _ => exact (GuardsRun.refl _).bind fun _ => throw_foreignFault_guards h hroom _ s

theorem steps_guards (position : Nat) (p : Program) (s : Stack) :
    c.GuardsRun (steps c rates position p s) (steps d rates position p s) := by
  induction p generalizing position s with
  | nil => exact .refl _
  | cons op p ih =>
    refine (step_guards h hroom rates position op s).bind fun e => ?_
    exact (ih (position + 1) e.stack).bind fun _ => .refl _

theorem run_guards (root : Tree) (p : Program) :
    c.GuardsRun (run c rates root p) (run d rates root p) :=
  (GuardsRun.refl _).bind fun _ => (steps_guards h hroom rates 0 p [root]).bind fun _ => .refl _

end Machine

end Guarded

namespace Machine

/-- A run under narrower caps is the run under wider ones, with the same tree, reads, record and cost or the
same fault, and with as much used; or one of the narrower caps stops it, which the caller is told. There has to
be room for cells as large as the wider cap lets them be, as there is whatever the environment sets. -/
theorem caps_only_guard [Memory] {c d : Config} (h : c.Within d) (hroom : d.maxCellBytes ≤ Memory.available)
    (rates : Tariff) (root : Tree) (p : Program) (m : Meter) :
    (run c rates root p m = run d rates root p m ∨
      ∃ e m', run c rates root p m = .error e m' ∧ c.Refuses e ∧ e.told.kind = .structural) ∧
    ∀ o m', run c rates root p m = .ok o m' → run d rates root p m = .ok o m' := by
  obtain heq | ⟨e, m', he, hrefuses⟩ := run_guards h hroom rates root p m
  · exact ⟨.inl heq, fun o m' ho => heq.symm.trans ho⟩
  · refine ⟨.inr ⟨e, m', he, hrefuses, hrefuses.kind_told⟩, fun o r ho => ?_⟩
    cases he.symm.trans ho

/-- Eight entries are enough for the root and seven more. An eighth is refused, though not where there is
room for it. -/
theorem caps_only_guard_at_eight :
    let d := Config.ofEnvironment fun _ => none
    let c := { d with maxStackDepth := 8 }
    let read (n : Nat) : Program :=
      .ofInstrs (List.replicate n (.push false (.cell .empty)) ++ List.replicate n (.popeq false none))
    let left (cfg : Config) (n : Nat) := run cfg Tariff.standard .null (read n) (.start none)
    (∃ o m, left c 7 = .ok o m ∧ left d 7 = .ok o m) ∧
      (∃ e m, left c 8 = .error e m ∧ e.told.kind = .structural) ∧ ∃ o m, left d 8 = .ok o m := by
  intro d c read left
  have hcaps : c.Within d := ⟨by decide, Nat.le_refl _, Nat.le_refl _, Nat.le_refl _⟩
  have hroom : d.maxCellBytes ≤ Memory.available := Config.maxCellBytes_le_available _
  have hwide : ∃ o m, left d 8 = .ok o m := ⟨_, _, rfl⟩
  obtain ⟨m, hrefused⟩ : ∃ m, left c 8 = .error (.stackOverflow 8) m := ⟨_, rfl⟩
  obtain ⟨-, hseven⟩ := caps_only_guard hcaps hroom Tariff.standard .null (read 7) (.start none)
  obtain ⟨heq | ⟨e, m, he, -, hkind⟩, -⟩ :=
    caps_only_guard hcaps hroom Tariff.standard .null (read 8) (.start none)
  · obtain ⟨o, m', ho⟩ := hwide
    cases hrefused.symm.trans (heq.trans ho)
  · exact ⟨⟨_, _, rfl, hseven _ _ rfl⟩, ⟨e, m, he, hkind⟩, hwide⟩

end Machine

end AlignedLedger
