import AlignedLedger.Proofs.Machine.Metering

/-! Programs one after another. A step does not depend on its place in the program, but for the message
about something that is no instruction; so a program that follows another one does what it does alone, from
the root and with the meter that the first one has left. -/

namespace AlignedLedger

/-- The same fault, told of something that is no instruction by as many places further on. -/
inductive Fault.Displaced (n : Nat) : Fault → Fault → Prop
  | same (e : Fault) : Displaced n e e
  | position (k : Nat) (d : Datum) :
      Displaced n (unknownInstruction k d) (unknownInstruction (k + n) d)

namespace Machine

variable {cfg : Config} {rates : Tariff} {m m' r : Meter} {s t : Stack} {k : Nat} {op : Step}
variable {p q : Program} {reads : List AlignedValue} {executed : List Instr} {e : Fault}

variable [Memory]

theorem step_displaced (n : Nat) (h : step cfg rates k op s m = .error e m') :
    ∃ f, step cfg rates (k + n) op s m = .error f m' ∧ Fault.Displaced n e f := by
  cases op with
  | foreign d =>
    cases h
    exact ⟨_, rfl, .position k d⟩
  | _ => exact ⟨e, h, .same e⟩

theorem steps_cons_eq_error :
    steps cfg rates k (op :: p) s m = .error e m' ↔
      step cfg rates k op s m = .error e m' ∨
        ∃ f r, step cfg rates k op s m = .ok f r ∧ steps cfg rates (k + 1) p f.stack r = .error e m' := by
  rw [steps, bind_run_eq_error]
  refine or_congr_right (exists_congr fun f => exists_congr fun r => and_congr_right fun _ => ?_)
  rw [bind_run_eq_error]
  simp

/-- What succeeds at one place of a program succeeds just so at every other. -/
theorem steps_of_ok {x : Stack × List AlignedValue × List Instr} (j : Nat)
    (h : steps cfg rates k p s m = .ok x m') : steps cfg rates j p s m = .ok x m' := by
  induction p generalizing k j s m x with
  | nil => exact h
  | cons op p ih =>
    obtain ⟨_, _, _⟩ := x
    obtain ⟨f, r, rs, es, hs, hp, rfl, rfl⟩ := steps_cons_eq_ok.mp h
    exact steps_cons_eq_ok.mpr ⟨f, r, rs, es, step_eq_ok.mpr (step_eq_ok.mp hs), ih (j + 1) hp, rfl, rfl⟩

theorem steps_displaced (n : Nat) (h : steps cfg rates k p s m = .error e m') :
    ∃ f, steps cfg rates (k + n) p s m = .error f m' ∧ Fault.Displaced n e f := by
  induction p generalizing k s m with
  | nil => cases h
  | cons op p ih =>
    rcases steps_cons_eq_error.mp h with hs | ⟨f, r, hs, hp⟩
    · obtain ⟨g, hg, hd⟩ := step_displaced n hs
      exact ⟨g, steps_cons_eq_error.mpr (.inl hg), hd⟩
    · obtain ⟨g, hg, hd⟩ := ih hp
      rw [Nat.add_right_comm] at hg
      exact ⟨g, steps_cons_eq_error.mpr (.inr ⟨f, r, step_eq_ok.mpr (step_eq_ok.mp hs), hg⟩), hd⟩

theorem steps_append_eq_error (hp : steps cfg rates k p s m = .ok (t, reads, executed) r)
    (hq : steps cfg rates (k + p.length) q t r = .error e m') :
    steps cfg rates k (p ++ q) s m = .error e m' := by
  induction p generalizing k s m reads executed with
  | nil =>
    cases hp
    exact hq
  | cons op p ih =>
    obtain ⟨f, u, rs, es, hs, hr, rfl, rfl⟩ := steps_cons_eq_ok.mp hp
    rw [List.length_cons, Nat.add_comm p.length, ← Nat.add_assoc] at hq
    exact steps_cons_eq_error.mpr (.inr ⟨f, u, hs, ih hr hq⟩)

theorem run_eq_error {root : Tree} :
    run cfg rates root p m = .error e m' ↔
      steps cfg rates 0 p [root] m = .error e m' ∨
        ∃ t reads executed, steps cfg rates 0 p [root] m = .ok (t, reads, executed) m' ∧
          t.length ≠ 1 ∧ e = .leftOnStack t.length := by
  rw [run, bind_run_of_ok (get_run m), bind_run_eq_error]
  refine or_congr_right ?_
  constructor
  · rintro ⟨⟨t, reads, executed⟩, r, hs, h⟩
    obtain ⟨⟨⟩⟩ | ⟨_, _, ⟨⟩, h⟩ := bind_run_eq_error.mp h
    split at h
    · cases h
    · next hne =>
      cases h
      exact ⟨t, reads, executed, hs, fun hl => (List.length_eq_one_iff.mp hl).elim hne, rfl⟩
  · rintro ⟨t, reads, executed, hs, hlength, rfl⟩
    refine ⟨_, m', hs, bind_run_eq_error.mpr (.inr ⟨m', m', get_run m', ?_⟩)⟩
    split
    · exact absurd rfl hlength
    · rfl

section Runs

variable {root : Tree} {o o' : Outcome}

theorem run_append (hp : run cfg rates root p m = .ok o r) (hq : run cfg rates o.tree q r = .ok o' m') :
    run cfg rates root (p ++ q) m =
      .ok ⟨o'.tree, o.reads ++ o'.reads, o.executed ++ o'.executed, o.cost + o'.cost⟩ m' := by
  obtain ⟨hsp, -⟩ := run_eq_ok.mp hp
  obtain ⟨hsq, -⟩ := run_eq_ok.mp hq
  refine run_eq_ok.mpr ⟨steps_append hsp (steps_of_ok _ hsq), ?_⟩
  obtain rfl := (run_unlimited hp).1
  obtain rfl := (run_unlimited hq).1
  dsimp only
  omega

/-- The second program is stopped by what stops it alone, at a place that the first one has moved. -/
theorem run_append_eq_error (hp : run cfg rates root p m = .ok o r)
    (hq : run cfg rates o.tree q r = .error e m') :
    ∃ f, run cfg rates root (p ++ q) m = .error f m' ∧ Fault.Displaced p.length e f := by
  obtain ⟨hsp, -⟩ := run_eq_ok.mp hp
  rcases run_eq_error.mp hq with hsq | ⟨t, reads, executed, hsq, hlength, rfl⟩
  · obtain ⟨f, hf, hd⟩ := steps_displaced p.length hsq
    exact ⟨f, run_eq_error.mpr (.inl (steps_append_eq_error hsp hf)), hd⟩
  · have hall := steps_append hsp (steps_of_ok (0 + p.length) hsq)
    exact ⟨_, run_eq_error.mpr (.inr ⟨t, _, _, hall, hlength, rfl⟩), .same _⟩

end Runs

end Machine

end AlignedLedger
