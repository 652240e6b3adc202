import AlignedLedger.Proofs.Machine.Frame

/-! What instructions come to where they stand in the middle of a run, as it is seen from outside: the stack
that they leave and what they read, or the fault that they end in. Without a limit, and where no price is
below zero, that is what they make of the stack when nothing is charged; and no stack gets deeper than it
may be. -/

namespace AlignedLedger

namespace Stack

variable {cfg : Config} {s t : Stack} {i : Instr}

section Quiet

variable {r : Except Fault Stack}

variable [Memory]

/-- An instruction that reads nothing hands on its stack, and no more. -/
theorem performAll_cons_of_quiet (h : perform cfg i s = r.map fun t => (t, none)) (is : List Instr) :
    performAll cfg (i :: is) s = r >>= performAll cfg is := by
  rw [performAll, h]
  cases r with
  | error e => rfl
  | ok t =>
    simp only [ok_map, ok_bind]
    cases performAll cfg is t <;> rfl

theorem performAll_of_quiet (h : perform cfg i s = r.map fun t => (t, none)) :
    performAll cfg [i] s = r.map fun t => (t, []) := by
  rw [performAll_cons_of_quiet h]
  cases r <;> rfl

end Quiet

theorem length_of_push {u : Tree} (h : push cfg u s = .ok t) : t.length ≤ cfg.maxStackDepth := by
  obtain ⟨hs, rfl⟩ := push_eq_ok.mp h
  exact hs

variable [Memory]

theorem length_of_perform {read : Option AlignedValue} (hs : s.length ≤ cfg.maxStackDepth)
    (h : perform cfg i s = .ok (t, read)) : t.length ≤ cfg.maxStackDepth := by
  cases i with
  | push persist u =>
    obtain ⟨r, hr, ⟨⟩⟩ := map_eq_ok.mp h
    exact length_of_push hr
  | dup n =>
    obtain ⟨r, hr, ⟨⟩⟩ := map_eq_ok.mp h
    cases n with
    | negSucc n => cases hr
    | ofNat n =>
      rw [dup] at hr
      split at hr
      · exact length_of_push hr
      · cases hr
  | idx persist pushPath path =>
    obtain ⟨r, hr, ⟨⟩⟩ := map_eq_ok.mp h
    obtain ⟨-, _, _, _, _, _, -, -, hr⟩ := idx_eq_ok.mp hr
    exact length_of_push hr
  | popeq persist result =>
    obtain ⟨⟨v, r⟩, hr, ⟨⟩⟩ := map_eq_ok.mp h
    rw [popCell_eq_ok.mp (popeq_eq_ok.mp hr).1] at hs
    exact Nat.le_of_succ_le hs
  | ins persist n =>
    obtain ⟨⟨w, r⟩, -, h⟩ := bind_eq_ok.mp h
    obtain ⟨q, hq, ⟨⟩⟩ := map_eq_ok.mp h
    obtain ⟨_, -, hq⟩ := bind_eq_ok.mp hq
    exact length_of_push hq
  | addi n =>
    obtain ⟨r, hr, ⟨⟩⟩ := map_eq_ok.mp h
    cases n with
    | negSucc n => cases hr
    | ofNat n =>
      obtain ⟨⟨v, q⟩, -, hr⟩ := bind_eq_ok.mp hr
      dsimp only at hr
      split at hr
      · obtain ⟨_, -, hr⟩ := bind_eq_ok.mp hr
        exact length_of_push hr
      · cases hr

theorem length_of_performAll {is : List Instr} {reads : List AlignedValue} (hs : s.length ≤ cfg.maxStackDepth)
    (h : performAll cfg is s = .ok (t, reads)) : t.length ≤ cfg.maxStackDepth := by
  induction is generalizing s reads with
  | nil =>
    cases h
    exact hs
  | cons i is ih =>
    obtain ⟨⟨r, read⟩, hi, h⟩ := bind_eq_ok.mp h
    obtain ⟨⟨_, _⟩, his, h⟩ := bind_eq_ok.mp h
    cases h
    exact ih (length_of_perform hs hi) his

end Stack

namespace Machine

variable [Memory]

/-- What comes of instructions from a place of a program on, with as much used up to there and no limit. -/
def execute (cfg : Config) (rates : Tariff) (position used : Nat) (is : List Instr) (s : Stack) :
    Except Fault (Stack × List AlignedValue) :=
  (attempt (steps cfg rates position (.ofInstrs is) s) ⟨none, used⟩).map fun p => (p.1.1, p.1.2.1)

theorem execute_eq_performAll {prices : CostModel} (hp : prices.Payable) (cfg : Config)
    (position used : Nat) (is : List Instr) (s : Stack) :
    execute cfg prices.tariff position used is s = Stack.performAll cfg is s := by
  unfold execute attempt
  cases h : Stack.performAll cfg is s with
  | ok x =>
    obtain ⟨⟨t, reads, executed⟩, m, hs⟩ := exists_steps hp h position used
    rw [hs, ← h]
    exact (performAll_of_steps hs).symm
  | error e =>
    obtain ⟨m, hs⟩ := exists_steps_error hp h position used
    rw [hs]
    rfl

section Quiet

variable {cfg : Config} {prices : CostModel} (hp : prices.Payable) {i j : Instr} {s t : Stack}
variable {r : Except Fault Stack} {g : Stack → Except Fault Stack} {reads : List AlignedValue}
include hp

theorem execute_of_quiet (h : Stack.perform cfg i s = r.map fun t => (t, none)) {position used : Nat} :
    execute cfg prices.tariff position used [i] s = .ok (t, reads) ↔ r = .ok t ∧ reads = [] := by
  rw [execute_eq_performAll hp, Stack.performAll_of_quiet h, map_eq_ok]
  simp [eq_comm]

theorem execute_pair_of_quiet (hi : Stack.perform cfg i s = r.map fun t => (t, none))
    (hj : ∀ q, Stack.perform cfg j q = (g q).map fun t => (t, none)) {position used : Nat} :
    execute cfg prices.tariff position used [i, j] s = .ok (t, reads) ↔
      (∃ q, r = .ok q ∧ g q = .ok t) ∧ reads = [] := by
  rw [execute_eq_performAll hp, Stack.performAll_cons_of_quiet hi, bind_eq_ok]
  simp only [Stack.performAll_of_quiet (hj _), map_eq_ok]
  simp [eq_comm, ← and_assoc]

end Quiet

theorem exists_run_iff {prices : CostModel} (hp : prices.Payable) {cfg : Config} {is : List Instr}
    {root t : Tree} {reads : List AlignedValue} (used : Nat) :
    (∃ o m, run cfg prices.tariff root (.ofInstrs is) ⟨none, used⟩ = .ok o m ∧ o.tree = t ∧ o.reads = reads) ↔
      Stack.performAll cfg is [root] = .ok ([t], reads) := by
  constructor
  · rintro ⟨o, m, ho, rfl, rfl⟩
    exact performAll_of_steps (run_eq_ok.mp ho).1
  · intro h
    obtain ⟨o, m, ho⟩ := exists_run hp h used
    have he := (performAll_of_steps (run_eq_ok.mp ho).1).symm.trans h
    simp only [Except.ok.injEq, Prod.mk.injEq, List.cons.injEq, and_true] at he
    exact ⟨o, m, ho, he⟩

end Machine

end AlignedLedger
