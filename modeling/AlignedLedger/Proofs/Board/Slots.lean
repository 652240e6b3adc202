import AlignedLedger.Board.View
import AlignedLedger.Proofs.Call.Query
import AlignedLedger.Proofs.Config
import AlignedLedger.Proofs.Machine.Walks

/-! The programs of the slots, and the fields that a board's root shows: one write changes one field,
and what is read is the field. -/

namespace AlignedLedger

/-- There is room for a board and for the programs of its slots. -/
structure Config.HoldsBoard (cfg : Config) : Prop where
  stack : 3 ≤ cfg.maxStackDepth
  path : 1 ≤ cfg.maxPathLength
  array : 4 ≤ cfg.maxArrayLength
  cell : 64 ≤ cfg.maxCellBytes

/-- There is room for the programs of the slots, whatever a root may be that has them. -/
structure Config.HoldsSlots (cfg : Config) : Prop where
  stack : 3 ≤ cfg.maxStackDepth
  path : 1 ≤ cfg.maxPathLength
  cell : 64 ≤ cfg.maxCellBytes

theorem Config.HoldsBoard.slots {cfg : Config} (hc : cfg.HoldsBoard) : cfg.HoldsSlots :=
  ⟨hc.stack, hc.path, hc.cell⟩

theorem Config.holdsSlots_ofEnvironment (env : Environment) : (ofEnvironment env).HoldsSlots where
  stack := Nat.le_trans (by decide)
    (Setting.least_le_read (s := Setting.maxStackDepth) (by decide) (by decide) env)
  path := Setting.least_le_read (s := Setting.maxPathLength) (by decide) (by decide) env
  cell := Setting.least_le_read (s := Setting.maxCellBytes) (by decide) (by decide) env

theorem Config.holdsBoard_ofEnvironment {env : Environment}
    (h : 4 ≤ (ofEnvironment env).maxArrayLength) : (ofEnvironment env).HoldsBoard :=
  have hc := holdsSlots_ofEnvironment env
  ⟨hc.stack, hc.path, h, hc.cell⟩

namespace Board

variable {cfg : Config} {slot : Slot} {s s' : CallState} {t u : Tree}

section Programs

variable [Memory]

theorem performAll_read (hc : cfg.HoldsSlots) (key : AlignedValue) (cached : Bool) (t : Tree) :
    Stack.performAll cfg [.dup 0, .idx false false [.literal key], .popeq cached none] [t] =
      t.index key >>= fun u => u.asCell.map fun v => ([t], [v]) := by
  have hd : 1 < cfg.maxStackDepth := Nat.lt_of_lt_of_le (by decide) hc.stack
  have hp : [key].length ≤ cfg.maxPathLength := hc.path
  refine (Stack.performAll_readAt hd hp false cached t).trans ?_
  rw [Tree.walk]
  cases t.index key <;> rfl

theorem perform_ins (hc : cfg.HoldsSlots) (persist : Bool) (key : AlignedValue) (c t : Tree) :
    Stack.perform cfg (.ins persist 1) [c, .cell key, t] =
      (t.insert cfg key c).map fun u => ([u], none) := by
  have hd : 0 < cfg.maxStackDepth := Nat.lt_of_lt_of_le (by decide) hc.stack
  cases hi : t.insert cfg key c <;>
    simp [Stack.perform, Stack.push, Stack.insOperands, Stack.require, Stack.ins, Stack.rebuild,
      Stack.pop, Stack.popCell, Tree.asCell, hd, hi]

theorem performAll_write (hc : cfg.HoldsSlots) (key : AlignedValue) (c t : Tree) :
    Stack.performAll cfg [.push false (.cell key), .push true c, .ins false 1] [t] =
      (t.insert cfg key c).map fun u => ([u], []) := by
  have hpush : ∀ persist v (s : Stack), s.length < 3 →
      Stack.perform cfg (.push persist v) s = .ok (v :: s, none) := by
    intro persist v s h
    rw [Stack.perform, Stack.push, if_pos (Nat.lt_of_lt_of_le h hc.stack)]
    rfl
  rw [Stack.performAll_cons (hpush false _ [t] (by simp)),
    Stack.performAll_cons (hpush true c [.cell key, t] (by simp)), Stack.performAll, perform_ins hc]
  cases t.insert cfg key c <;> rfl

/-- The container and the key stay below the number while it is added to. -/
theorem performAll_add (hc : cfg.HoldsSlots) {key v : AlignedValue} (n : Nat)
    (hk : key.binaryLength ≤ cfg.maxCellBytes) (hi : t.index key = .ok (.cell v)) :
    Stack.performAll cfg [.idx false true [.literal key], .addi n, .ins true 1] [t] =
      match v.addNat n with
      | .ok w => Tree.makeCell cfg w >>= fun c => (t.insert cfg key c).map fun u => ([u], [])
      | .error e => .error (.addiRejected e) := by
  have h₀ : 0 < cfg.maxStackDepth := Nat.lt_of_lt_of_le (by decide) hc.stack
  have h₁ : 1 < cfg.maxStackDepth := Nat.lt_of_lt_of_le (by decide) hc.stack
  have h₂ : 2 < cfg.maxStackDepth := hc.stack
  have hp : ¬ cfg.maxPathLength < 1 := Nat.not_lt.mpr hc.path
  have hkey : Tree.makeCell cfg key = .ok (.cell key) := if_pos hk
  have ht : t.orNewMap = t := Tree.orNewMap_of_index hi
  have hchild : t.childOrNull key = .ok (.cell v) := by
    have hh := Tree.childOrNull_of_index hi
    rwa [ht] at hh
  have hidx : Stack.perform cfg (.idx false true [.literal key]) [t] =
      .ok ([.cell v, .cell key, t], none) := by
    simp [Stack.perform, Stack.idx, Stack.pathKeys, Stack.pop, Stack.recordedWalk, Stack.push, ht,
      hchild, h₀, h₁, h₂, hp, hkey]
  have hadd : Stack.addi cfg n [.cell v, .cell key, t] =
      match v.addNat n with
      | .ok w => (Tree.makeCell cfg w).map fun c => [c, .cell key, t]
      | .error e => .error (.addiRejected e) := by
    cases hw : v.addNat n with
    | error e => simp [Stack.addi, Stack.popCell, Stack.pop, Tree.asCell, hw]
    | ok w =>
      cases hm : Tree.makeCell cfg w <;>
        simp [Stack.addi, Stack.popCell, Stack.pop, Stack.push, Tree.asCell, hw, hm, h₂]
  rw [Stack.performAll_cons hidx, Stack.performAll, Stack.perform, hadd]
  cases v.addNat n with
  | error e => rfl
  | ok w =>
    dsimp only
    cases Tree.makeCell cfg w with
    | error e => rfl
    | ok c =>
      simp only [ok_map, ok_bind, Stack.performAll, perform_ins hc]
      cases t.insert cfg key c <;> rfl

end Programs

end Board

end AlignedLedger
