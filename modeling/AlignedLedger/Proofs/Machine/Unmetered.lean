import AlignedLedger.Proofs.Machine.Metering

/-! What programs do to the operand stack when nothing is charged. A run that succeeds under a meter
does just that, and where no price is below zero nothing but a limit can stop it from outside. -/

namespace AlignedLedger

namespace Stack

variable [Memory]

/-- What an instruction makes of the stack, and the value it reads. -/
def perform (cfg : Config) (i : Instr) (s : Stack) : Except Fault (Stack × Option AlignedValue) :=
  match i with
  | .push _ t => (push cfg t s).map fun s => (s, none)
  | .dup n => (dup cfg n s).map fun s => (s, none)
  | .idx _ pushPath path => (idx cfg pushPath path s).map fun s => (s, none)
  | .popeq _ result => (popeq result s).map fun p => (p.2, some p.1)
  | .ins _ n => insOperands n s >>= fun p => (ins cfg n.toNat p.1 p.2).map fun s => (s, none)
  | .addi n => (addi cfg n s).map fun s => (s, none)

/-- What a program makes of the stack, and the values it reads. -/
def performAll (cfg : Config) : List Instr → Stack → Except Fault (Stack × List AlignedValue)
  | [], s => .ok (s, [])
  | i :: is, s => do
    let (s, read) ← perform cfg i s
    let (s, reads) ← performAll cfg is s
    pure (s, read.toList ++ reads)

theorem performAll_cons {cfg : Config} {i : Instr} {s t : Stack} {read : Option AlignedValue}
    (h : perform cfg i s = .ok (t, read)) (is : List Instr) :
    performAll cfg (i :: is) s = (performAll cfg is t).map fun r => (r.1, read.toList ++ r.2) := by
  rw [performAll, h, ok_bind]
  dsimp only
  cases performAll cfg is t <;> rfl

end Stack

namespace Meter

theorem chargePrice_nat (n u : Nat) :
    chargePrice (.ok (.int n)) ⟨none, u⟩ = .ok () ⟨none, u + n⟩ := rfl

end Meter

/-- No instruction and no byte costs less than nothing. -/
structure CostModel.Payable (prices : CostModel) : Prop where
  instr : ∀ i, 0 ≤ prices.costOf i
  byte : 0 ≤ prices.perByteWritten

namespace CostModel.Payable

variable {prices : CostModel} (hp : prices.Payable)
include hp

variable [Memory]

theorem exists_price (i : Instr) : ∃ n : Nat, prices.tariff.costOf i = .ok (.int n) := by
  obtain ⟨n, hn⟩ := Int.eq_ofNat_of_zero_le (hp.instr i)
  exact ⟨n, by rw [Tariff.costOf_tariff, hn]⟩

theorem exists_price_of_bytes (size : Nat) :
    ∃ n : Nat, prices.tariff.perByteWritten.times size = .ok (.int n) := by
  obtain ⟨n, hn⟩ := Int.eq_ofNat_of_zero_le hp.byte
  refine ⟨n * size, ?_⟩
  rw [CostModel.tariff, hn]
  rfl

end CostModel.Payable

theorem CostModel.payable_standard : standard.Payable where
  instr i := by
    have hrate : ∀ (b : Bool) (m n : Nat), (0 : Int) ≤ if b then (m : Int) else n := by
      intro b m n
      cases b <;> exact Int.natCast_nonneg _
    cases i with
    | idx persist _ path =>
      exact Int.add_nonneg (hrate persist 2 8) (Int.mul_nonneg (by decide) (Int.natCast_nonneg _))
    | popeq persist _ => exact hrate persist 1 4
    | ins persist n => exact Int.mul_nonneg (hrate persist 4 10) (by omega)
    | push _ _ => exact Int.natCast_nonneg 1
    | dup _ => exact Int.natCast_nonneg 1
    | addi _ => exact Int.natCast_nonneg 2
  byte := by decide

namespace Machine

variable {cfg : Config} {rates : Tariff} {m m' : Meter} {s : Stack}

variable [Memory]

theorem perform_of_ok {i : Instr} {e : Effect} (h : perform cfg rates i s m = .ok e m') :
    s.perform cfg i = .ok (e.stack, e.read) := by
  cases i with
  | ins persist n =>
    obtain ⟨p, hp, h⟩ := bind_ofExcept_run.mp h
    obtain ⟨_, r, -, h⟩ := bind_run_eq_ok.mp h
    obtain ⟨t, ht, ⟨⟩⟩ := bind_ofExcept_run.mp h
    rw [Stack.perform, hp, ok_bind, ht]
    rfl
  | _ =>
    obtain ⟨p, hp, ⟨⟩⟩ := bind_ofExcept_run.mp h
    rw [Stack.perform, hp]
    rfl

section Payable

variable {prices : CostModel} (hp : prices.Payable)
include hp

theorem chargePrice_of_payable (i : Instr) (u : Nat) :
    ∃ n, Meter.chargePrice (prices.tariff.costOf i) ⟨none, u⟩ = .ok () ⟨none, u + n⟩ := by
  obtain ⟨n, hn⟩ := hp.exists_price i
  exact ⟨n, by rw [hn]; exact Meter.chargePrice_nat n u⟩

theorem chargePrice_bytes (size u : Nat) :
    ∃ n, Meter.chargePrice (prices.tariff.perByteWritten.times size) ⟨none, u⟩ =
      .ok () ⟨none, u + n⟩ := by
  obtain ⟨n, hn⟩ := hp.exists_price_of_bytes size
  exact ⟨n, by rw [hn]; exact Meter.chargePrice_nat n u⟩

theorem exists_perform {i : Instr} {t : Stack} {read : Option AlignedValue}
    (h : s.perform cfg i = .ok (t, read)) (u : Nat) :
    ∃ e m', perform cfg prices.tariff i s ⟨none, u⟩ = .ok e m' := by
  cases i with
  | ins persist n =>
    obtain ⟨p, hop, h⟩ := bind_eq_ok.mp h
    obtain ⟨q, hq, -⟩ := map_eq_ok.mp h
    obtain ⟨n, hn⟩ := chargePrice_bytes hp p.1.storageSize u
    exact ⟨_, _, bind_ofExcept_run.mpr ⟨p, hop, bind_run_eq_ok.mpr
      ⟨(), _, hn, bind_ofExcept_run.mpr ⟨q, hq, rfl⟩⟩⟩⟩
  | _ =>
    obtain ⟨p, hop, -⟩ := map_eq_ok.mp h
    exact ⟨_, _, bind_ofExcept_run.mpr ⟨p, hop, rfl⟩⟩

/-- What stops an instruction that nobody charges for stops it just so when it is paid. -/
theorem exists_perform_error {i : Instr} {f : Fault} (h : s.perform cfg i = .error f) (u : Nat) :
    ∃ m', perform cfg prices.tariff i s ⟨none, u⟩ = .error f m' := by
  cases i with
  | ins persist n =>
    rcases bind_eq_error.mp h with hop | ⟨⟨v, t⟩, hop, h⟩
    · exact ⟨_, bind_run_of_error (ofExcept_run_of_error hop)⟩
    · obtain ⟨n, hn⟩ := chargePrice_bytes hp v.storageSize u
      refine ⟨⟨none, u + n⟩, bind_run_eq_error.mpr (.inr ⟨_, _, ofExcept_run_of_ok hop, ?_⟩)⟩
      refine bind_run_eq_error.mpr (.inr ⟨_, _, hn, ?_⟩)
      exact bind_run_of_error (ofExcept_run_of_error (map_eq_error.mp h))
  | _ => exact ⟨_, bind_run_of_error (ofExcept_run_of_error (map_eq_error.mp h))⟩

end Payable

theorem performAll_of_steps {is executed : List Instr} {k : Nat} {t : Stack}
    {reads : List AlignedValue}
    (h : steps cfg rates k (.ofInstrs is) s m = .ok (t, reads, executed) m') :
    Stack.performAll cfg is s = .ok (t, reads) := by
  induction is generalizing k s m reads executed with
  | nil =>
    cases h
    rfl
  | cons i is ih =>
    obtain ⟨e, r, rs, es, hs, hp, rfl, rfl⟩ := steps_cons_eq_ok.mp h
    obtain ⟨_, _, ⟨⟩, -, he⟩ := step_eq_ok.mp hs
    exact bind_eq_ok.mpr ⟨_, perform_of_ok he, bind_eq_ok.mpr ⟨_, ih hp, rfl⟩⟩

section Payable

variable {prices : CostModel} (hp : prices.Payable)
include hp

theorem exists_steps {is : List Instr} {t : Stack} {reads : List AlignedValue}
    (h : Stack.performAll cfg is s = .ok (t, reads)) (k u : Nat) :
    ∃ x m', steps cfg prices.tariff k (.ofInstrs is) s ⟨none, u⟩ = .ok x m' := by
  induction is generalizing s t reads k u with
  | nil => exact ⟨_, _, rfl⟩
  | cons i is ih =>
    obtain ⟨⟨s', read⟩, hi, h⟩ := bind_eq_ok.mp h
    obtain ⟨⟨t', rs⟩, his, -⟩ := bind_eq_ok.mp h
    obtain ⟨n, hn⟩ := chargePrice_of_payable hp i u
    obtain ⟨e, r, he⟩ := exists_perform hp hi (u + n)
    obtain ⟨_, rfl, -⟩ := perform_onlyAdds cfg prices.tariff i s he
    obtain ⟨rfl, rfl⟩ := Prod.mk.inj (Except.ok.inj ((perform_of_ok he).symm.trans hi))
    obtain ⟨⟨_, _, _⟩, m', hs⟩ := ih his (k + 1) _
    exact ⟨_, m', steps_cons_eq_ok.mpr
      ⟨e, _, _, _, step_eq_ok.mpr ⟨i, _, rfl, hn, he⟩, hs, rfl, rfl⟩⟩

theorem exists_steps_error {is : List Instr} {f : Fault}
    (h : Stack.performAll cfg is s = .error f) (k u : Nat) :
    ∃ m', steps cfg prices.tariff k (.ofInstrs is) s ⟨none, u⟩ = .error f m' := by
  induction is generalizing s k u with
  | nil => simp [Stack.performAll] at h
  | cons i is ih =>
    obtain ⟨n, hn⟩ := chargePrice_of_payable hp i u
    rcases bind_eq_error.mp h with hi | ⟨⟨s', read⟩, hi, h⟩
    · obtain ⟨m', he⟩ := exists_perform_error hp hi (u + n)
      exact ⟨m', bind_run_of_error ((bind_run_of_ok hn).trans he)⟩
    · obtain ⟨e, r, he⟩ := exists_perform hp hi (u + n)
      obtain ⟨_, rfl, -⟩ := perform_onlyAdds cfg prices.tariff i s he
      obtain ⟨rfl, rfl⟩ := Prod.mk.inj (Except.ok.inj ((perform_of_ok he).symm.trans hi))
      rcases bind_eq_error.mp h with h | ⟨_, -, h⟩
      · obtain ⟨m', hs⟩ := ih h (k + 1) _
        exact ⟨m', (bind_run_of_ok ((bind_run_of_ok hn).trans he)).trans (bind_run_of_error hs)⟩
      · simp at h

/-- Without a limit, and where no price is below zero, a program succeeds if it does when nothing is
charged. -/
theorem exists_run {is : List Instr} {root t : Tree} {reads : List AlignedValue}
    (h : Stack.performAll cfg is [root] = .ok ([t], reads)) (u : Nat) :
    ∃ o m', run cfg prices.tariff root (.ofInstrs is) ⟨none, u⟩ = .ok o m' := by
  obtain ⟨⟨s, rs, es⟩, m', hs⟩ := exists_steps hp h 0 u
  obtain ⟨rfl, rfl⟩ := Prod.mk.inj (Except.ok.inj ((performAll_of_steps hs).symm.trans h))
  exact ⟨⟨t, _, es, m'.used - u⟩, m', run_eq_ok.mpr ⟨hs, rfl⟩⟩

theorem exists_run_error {is : List Instr} {root : Tree} {f : Fault}
    (h : Stack.performAll cfg is [root] = .error f) (u : Nat) :
    ∃ m', run cfg prices.tariff root (.ofInstrs is) ⟨none, u⟩ = .error f m' := by
  obtain ⟨m', hs⟩ := exists_steps_error hp h 0 u
  exact ⟨m', (bind_run_of_ok (get_run _)).trans (bind_run_of_error hs)⟩

end Payable

end Machine

end AlignedLedger
