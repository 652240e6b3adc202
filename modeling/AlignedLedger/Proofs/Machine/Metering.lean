import AlignedLedger.Proofs.Machine.Steps

/-! A meter can stop a run and has no other bearing on it: a run that ends well uses an amount that
does not depend on the limit or on what was used before. However a run ends, what it used stays used,
and no run takes a meter past its limit. -/

namespace AlignedLedger

/-- Each success adds some amount to what was used, and comes about for the same amount where there is
no limit. -/
def Metered.OnlyAdds {α : Type} (x : Metered α) : Prop :=
  ∀ ⦃m : Meter⦄ ⦃a : α⦄ ⦃m' : Meter⦄, x m = .ok a m' →
    ∃ n, m' = ⟨m.limit, m.used + n⟩ ∧ ∀ u, x ⟨none, u⟩ = .ok a ⟨none, u + n⟩

namespace Metered.OnlyAdds

variable {α β : Type}

theorem pure (a : α) : OnlyAdds (Pure.pure a) := by
  rintro m _ _ ⟨⟩
  exact ⟨0, rfl, fun _ => rfl⟩

theorem throw (e : Fault) : OnlyAdds (MonadExcept.throw e : Metered α) := by
  rintro m _ _ ⟨⟩

theorem bind {x : Metered α} {f : α → Metered β} (hx : OnlyAdds x) (hf : ∀ a, OnlyAdds (f a)) :
    OnlyAdds (x >>= f) := by
  intro m b m' h
  obtain ⟨a, r, ha, hb⟩ := bind_run_eq_ok.mp h
  obtain ⟨n, rfl, hn⟩ := hx ha
  obtain ⟨k, rfl, hk⟩ := hf a hb
  refine ⟨n + k, by simp [Nat.add_assoc], fun u => ?_⟩
  rw [bind_run_of_ok (hn u), hk, Nat.add_assoc]

end Metered.OnlyAdds

namespace Meter

open Metered

theorem spend_onlyAdds (n : Amount) : OnlyAdds (spend n) := by
  rintro ⟨limit, used⟩ a m' h
  refine ⟨n.value, ?_, fun _ => rfl⟩
  unfold spend at h
  split at h
  · split at h
    · exact (EStateM.Result.ok.inj h).2.symm
    · simp at h
  · next hl =>
    cases hl
    exact (EStateM.Result.ok.inj h).2.symm

end Meter

namespace Meter

variable {m r t : Meter}

/-- The limit has stayed, and what was used has grown if anything, but not past the limit. -/
structure Climbs (m r : Meter) : Prop where
  limit : r.limit = m.limit
  used : m.used ≤ r.used
  within : ∀ l, m.limit = some l → r.used = m.used ∨ r.used ≤ l.value

theorem Climbs.refl (m : Meter) : Climbs m m where
  limit := rfl
  used := Nat.le_refl _
  within _ _ := .inl rfl

theorem Climbs.trans (h : Climbs m r) (hh : Climbs r t) : Climbs m t where
  limit := hh.limit.trans h.limit
  used := Nat.le_trans h.used hh.used
  within l hl := by
    rcases hh.within l (h.limit.trans hl) with he | hle
    · rw [he]
      exact h.within l hl
    · exact .inr hle

end Meter

/-- However the computation ends, the meter has climbed. -/
def Metered.OnlyClimbs {α : Type} (x : Metered α) : Prop :=
  ∀ m, match x m with
    | .ok _ r => m.Climbs r
    | .error _ r => m.Climbs r

namespace Metered.OnlyClimbs

variable {α β : Type}

theorem pure (a : α) : OnlyClimbs (Pure.pure a) := Meter.Climbs.refl

theorem throw (e : Fault) : OnlyClimbs (MonadExcept.throw e : Metered α) := Meter.Climbs.refl

theorem bind {x : Metered α} {f : α → Metered β} (hx : OnlyClimbs x) (hf : ∀ a, OnlyClimbs (f a)) :
    OnlyClimbs (x >>= f) := by
  intro m
  have hm := hx m
  cases h : x m with
  | error e r =>
    rw [h] at hm
    rw [bind_run_of_error h]
    exact hm
  | ok a r =>
    rw [h] at hm
    rw [bind_run_of_ok h]
    have hr := hf a r
    cases hb : f a r with
    | ok b t =>
      rw [hb] at hr
      exact hm.trans hr
    | error e t =>
      rw [hb] at hr
      exact hm.trans hr

end Metered.OnlyClimbs

namespace Meter

open Metered

theorem spend_onlyClimbs (n : Amount) : OnlyClimbs (spend n) := by
  rintro ⟨limit, used⟩
  cases limit with
  | none => exact ⟨rfl, Nat.le_add_right _ _, by simp⟩
  | some l =>
    by_cases hl : used + n.value ≤ l.value
    · simp only [spend, if_pos hl]
      refine ⟨rfl, Nat.le_add_right _ _, fun k hk => .inr ?_⟩
      rw [← Option.some.inj hk]
      exact hl
    · simp only [spend, if_neg hl]
      exact .refl _

end Meter

/-- The property holds of whatever is made of charges and of what no meter bears on. -/
structure Metered.Lasting (P : ∀ ⦃α : Type⦄, Metered α → Prop) : Prop where
  pure : ∀ ⦃α : Type⦄ (a : α), P (Pure.pure a : Metered α)
  throw : ∀ ⦃α : Type⦄ (e : Fault), P (MonadExcept.throw e : Metered α)
  bind : ∀ ⦃α β : Type⦄ {x : Metered α} {f : α → Metered β}, P x → (∀ a, P (f a)) → P (x >>= f)
  spend : ∀ n, P (Meter.spend n)

theorem Metered.lasting_onlyAdds : Lasting @OnlyAdds :=
  ⟨@OnlyAdds.pure, @OnlyAdds.throw, @OnlyAdds.bind, Meter.spend_onlyAdds⟩

theorem Metered.lasting_onlyClimbs : Lasting @OnlyClimbs :=
  ⟨@OnlyClimbs.pure, @OnlyClimbs.throw, @OnlyClimbs.bind, Meter.spend_onlyClimbs⟩

namespace Metered.Lasting

variable {P : ∀ ⦃α : Type⦄, Metered α → Prop} (h : Lasting P) (cfg : Config) (rates : Tariff)
include h

theorem ofExcept {α : Type} (x : Except Fault α) : P (MonadExcept.ofExcept x : Metered α) := by
  cases x with
  | ok a => exact h.pure a
  | error e => exact h.throw e

theorem chargePrice (price : Except Fault Datum) : P (Meter.chargePrice price) :=
  h.bind (h.ofExcept _) fun _ => h.bind (h.ofExcept _) h.spend

variable [Memory]

theorem perform (i : Instr) (s : Stack) : P (Machine.perform cfg rates i s) := by
  cases i with
  | ins persist n =>
    exact h.bind (h.ofExcept _) fun _ => h.bind (h.chargePrice _) fun _ =>
      h.bind (h.ofExcept _) fun _ => h.pure _
  | _ => exact h.bind (h.ofExcept _) fun _ => h.pure _

theorem step (position : Nat) (op : Step) (s : Stack) : P (Machine.step cfg rates position op s) := by
  cases op with
  | instr i => exact h.bind (h.chargePrice _) fun _ => h.perform cfg rates i s
  | foreign d => exact h.throw _
  | _ => exact h.bind (h.chargePrice _) fun _ => h.throw _

theorem steps (position : Nat) (p : Program) (s : Stack) :
    P (Machine.steps cfg rates position p s) := by
  induction p generalizing position s with
  | nil => exact h.pure _
  | cons op p ih =>
    exact h.bind (h.step cfg rates position op s) fun e => h.bind (ih (position + 1) e.stack) fun _ => h.pure _

end Metered.Lasting

namespace Machine

open Metered

variable (cfg : Config) (rates : Tariff)

variable [Memory]

theorem perform_onlyAdds (i : Instr) (s : Stack) : OnlyAdds (perform cfg rates i s) :=
  lasting_onlyAdds.perform cfg rates i s

theorem steps_onlyAdds (position : Nat) (p : Program) (s : Stack) :
    OnlyAdds (steps cfg rates position p s) :=
  lasting_onlyAdds.steps cfg rates position p s

theorem run_onlyClimbs (root : Tree) (p : Program) : OnlyClimbs (run cfg rates root p) := by
  refine .bind Meter.Climbs.refl fun _ => .bind (lasting_onlyClimbs.steps cfg rates 0 p [root]) fun x => ?_
  refine .bind Meter.Climbs.refl fun _ => ?_
  obtain ⟨s, _, _⟩ := x
  dsimp only
  split
  · exact .pure _
  · exact .throw _

variable {cfg rates}

/-- What a run under any meter gives, the same run gives without a limit, for the same amount. -/
theorem run_unlimited {root : Tree} {p : Program} {o : Outcome} {m m' : Meter}
    (h : run cfg rates root p m = .ok o m') :
    m' = ⟨m.limit, m.used + o.cost⟩ ∧ ∀ u, run cfg rates root p ⟨none, u⟩ = .ok o ⟨none, u + o.cost⟩ := by
  obtain ⟨hs, hc⟩ := run_eq_ok.mp h
  obtain ⟨n, rfl, hn⟩ := steps_onlyAdds cfg rates 0 p [root] hs
  obtain rfl : o.cost = n := by simpa using hc
  exact ⟨rfl, fun u => run_eq_ok.mpr ⟨hn u, by simp⟩⟩

end Machine

end AlignedLedger
