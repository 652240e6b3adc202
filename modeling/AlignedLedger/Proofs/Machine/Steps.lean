import AlignedLedger.Machine.Run
import AlignedLedger.Proofs.Success

/-! The parts of a run that succeeds: its steps, each paid for and then performed. -/

namespace AlignedLedger

theorem Program.instrs_ofInstrs (is : List Instr) : (ofInstrs is).instrs = is := by
  induction is with
  | nil => rfl
  | cons i is ih => exact congrArg (i :: ·) ih

namespace Machine

variable {cfg : Config} {rates : Tariff} {m m' : Meter} {s t : Stack} {k : Nat} {op : Step}
variable {p q : Program} {reads : List AlignedValue} {executed : List Instr}

variable [Memory]

/-- Only instructions come to an end, and only when they are paid for. -/
theorem step_eq_ok {e : Effect} :
    step cfg rates k op s m = .ok e m' ↔
      ∃ i r, op = .instr i ∧ Meter.chargePrice (rates.costOf i) m = .ok () r ∧
        perform cfg rates i s r = .ok e m' := by
  cases op with
  | instr i =>
    rw [step, bind_run_eq_ok]
    constructor
    · rintro ⟨_, r, hc, hp⟩
      exact ⟨i, r, rfl, hc, hp⟩
    · rintro ⟨_, r, ⟨⟩, hc, hp⟩
      exact ⟨(), r, hc, hp⟩
  | foreign d => simp [step]
  | _ =>
    constructor
    · intro h
      obtain ⟨_, _, -, h⟩ := bind_run_eq_ok.mp h
      simp at h
    · rintro ⟨_, _, ⟨⟩, -⟩

theorem steps_cons_eq_ok :
    steps cfg rates k (op :: p) s m = .ok (t, reads, executed) m' ↔
      ∃ e r rs es, step cfg rates k op s m = .ok e r ∧
        steps cfg rates (k + 1) p e.stack r = .ok (t, rs, es) m' ∧
        reads = e.read.toList ++ rs ∧ executed = e.executed :: es := by
  rw [steps, bind_run_eq_ok]
  constructor
  · rintro ⟨e, r, hs, h⟩
    obtain ⟨⟨_, rs, es⟩, _, hp, h⟩ := bind_run_eq_ok.mp h
    cases h
    exact ⟨e, r, rs, es, hs, hp, rfl, rfl⟩
  · rintro ⟨e, r, rs, es, hs, hp, rfl, rfl⟩
    exact ⟨e, r, hs, bind_run_eq_ok.mpr ⟨_, m', hp, rfl⟩⟩

/-- A program that comes to its end has nothing but instructions in it. -/
theorem exists_instrs_of_steps (h : steps cfg rates k p s m = .ok (t, reads, executed) m') :
    ∃ is, p = .ofInstrs is := by
  induction p generalizing k s m reads executed with
  | nil => exact ⟨[], rfl⟩
  | cons op p ih =>
    obtain ⟨e, r, rs, es, hs, hp, -, -⟩ := steps_cons_eq_ok.mp h
    obtain ⟨i, _, rfl, -, -⟩ := step_eq_ok.mp hs
    obtain ⟨is, rfl⟩ := ih hp
    exact ⟨i :: is, rfl⟩

theorem steps_append {r : Meter} {t' : Stack} {reads' : List AlignedValue} {executed' : List Instr}
    (hp : steps cfg rates k p s m = .ok (t, reads, executed) r)
    (hq : steps cfg rates (k + p.length) q t r = .ok (t', reads', executed') m') :
    steps cfg rates k (p ++ q) s m = .ok (t', reads ++ reads', executed ++ executed') m' := by
  induction p generalizing k s m reads executed with
  | nil =>
    cases hp
    exact hq
  | cons op p ih =>
    obtain ⟨e, u, rs, es, hs, hr, rfl, rfl⟩ := steps_cons_eq_ok.mp hp
    rw [List.length_cons, Nat.add_comm p.length, ← Nat.add_assoc] at hq
    exact steps_cons_eq_ok.mpr ⟨e, u, _, _, hs, ih hr hq, by simp, by simp⟩

theorem run_eq_ok {root : Tree} {p : Program} {o : Outcome} {m m' : Meter} :
    run cfg rates root p m = .ok o m' ↔
      steps cfg rates 0 p [root] m = .ok ([o.tree], o.reads, o.executed) m' ∧
        o.cost = m'.used - m.used := by
  rw [run, bind_run_of_ok (get_run m), bind_run_eq_ok]
  constructor
  · rintro ⟨⟨s, reads, executed⟩, r, hs, h⟩
    obtain ⟨_, _, ⟨⟩, hr⟩ := bind_run_eq_ok.mp h
    split at hr
    · cases hr
      exact ⟨hs, rfl⟩
    · simp at hr
  · rintro ⟨hs, hc⟩
    refine ⟨_, _, hs, bind_run_eq_ok.mpr ⟨_, _, get_run m', ?_⟩⟩
    rw [← hc]
    rfl

end Machine

end AlignedLedger
