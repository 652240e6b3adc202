import AlignedLedger.Proofs.Call.CutOff
import AlignedLedger.Proofs.Machine.Accounting

/-! What the parts of a call use: a fixed amount when they succeed, and no more than that when they fail.
The amounts of parts add up. -/

namespace AlignedLedger

namespace Metering

variable {σ α β : Type} [Metering σ] {n k : Nat} {before between : σ → Prop} {x : EStateM Fault σ α}
variable {mid : α → σ → Prop} {after : β → σ → Prop}

/-- From a state of the one kind, a success uses just so much and leaves a state of the other kind, and a
failure uses no more. -/
def Uses (n : Nat) (before : σ → Prop) (x : EStateM Fault σ α) (after : α → σ → Prop) : Prop :=
  ∀ s, before s → match x s with
    | .ok a t => used t = used s + n ∧ after a t
    | .error _ t => used t ≤ used s + n

namespace Uses

theorem used_of_ok {s t : σ} {a : α} (h : Uses n before x mid) (hs : before s) (hx : x s = .ok a t) :
    used t = used s + n ∧ mid a t := by
  have hh := h s hs
  rwa [hx] at hh

theorem used_left_le (h : Uses n before x mid) {s : σ} (hs : before s) :
    used (left (x s)) ≤ used s + n := by
  have hh := h s hs
  cases hx : x s with
  | ok a t =>
    rw [hx] at hh
    exact Nat.le_of_eq hh.1
  | error e t =>
    rw [hx] at hh
    exact hh

theorem bind {f : α → EStateM Fault σ β} (hx : Uses n before x mid)
    (hf : ∀ a, Uses k (mid a) (f a) after) : Uses (n + k) before (x >>= f) after := by
  intro s hs
  have hfirst := hx s hs
  cases h : x s with
  | error e t =>
    rw [h] at hfirst
    rw [bind_run_of_error h]
    dsimp only at hfirst ⊢
    omega
  | ok a t =>
    rw [h] at hfirst
    rw [bind_run_of_ok h]
    obtain ⟨hused, hmid⟩ := hfirst
    have hrest := hf a t hmid
    cases hb : f a t with
    | error e r =>
      rw [hb] at hrest
      dsimp only at hrest ⊢
      omega
    | ok b r =>
      rw [hb] at hrest
      exact ⟨by omega, hrest.2⟩

theorem pure {a : α} (h : ∀ s, before s → mid a s) :
    Uses 0 before (Pure.pure a : EStateM Fault σ α) mid :=
  fun s hs => ⟨rfl, h s hs⟩

/-- What no meter bears on uses nothing. -/
theorem of_unmetered (h : Unmetered x) (ha : ∀ s a t, before s → x s = .ok a t → mid a t) :
    Uses 0 before x mid := by
  intro s hs
  have hm := congrArg Meter.used (h.meter_left s)
  cases hx : x s with
  | ok a t =>
    rw [hx] at hm
    exact ⟨hm, ha s a t hs hx⟩
  | error e t =>
    rw [hx] at hm
    exact Nat.le_of_eq hm

theorem ofExcept {r : Except Fault α} (h : ∀ s a, before s → r = .ok a → mid a s) :
    Uses 0 before (MonadExcept.ofExcept r : EStateM Fault σ α) mid := by
  cases r with
  | ok a => exact fun s hs => ⟨rfl, h s a hs rfl⟩
  | error e => exact fun s _ => Nat.le_refl _

theorem throw (e : Fault) : Uses 0 before (MonadExcept.throw e : EStateM Fault σ α) mid :=
  fun _ _ => Nat.le_refl _

theorem get : Uses 0 before (MonadState.get : EStateM Fault σ σ) fun _ => before :=
  fun _ hs => ⟨rfl, hs⟩

/-- A success is looked at once more. -/
theorem of_ok (h : Uses n before x mid) {good : α → σ → Prop}
    (hg : ∀ s a t, before s → mid a t → x s = .ok a t → good a t) : Uses n before x good := by
  intro s hs
  have hh := h s hs
  cases hx : x s with
  | ok a t =>
    rw [hx] at hh
    exact ⟨hh.1, hg s a t hs hh.2 hx⟩
  | error e t =>
    rw [hx] at hh
    exact hh

end Uses

end Metering

namespace Call

open Metering

variable {cfg : Config} {is : List Instr} {n k : Nat}

/-- Charged by the standard rates, on a tree of this kind. -/
def Priced (kind : Tree → Prop) (s : CallState) : Prop :=
  s.context.rates = Tariff.standard ∧ kind s.context.tree

variable [Memory]

/-- A query uses what its instructions cost and what they put back. -/
theorem query_uses {kind : Tree → Prop} (hn : (is.map CostModel.standard.costOf).sum = n)
    (hk : ∀ t, kind t → Stack.bytesWritten cfg is [t] ≤ k ∧
      ∀ x, Stack.performAll cfg is [t] = .ok x → Stack.bytesWritten cfg is [t] = k) :
    Uses (n + k) (Priced kind) (query cfg (.ofInstrs is)) fun _ s => s.context.rates = Tariff.standard := by
  rintro s ⟨hrates, htree⟩
  obtain ⟨hle, heq⟩ := hk _ htree
  have hwhole : s.context.rates.Whole CostModel.standard := hrates ▸ Tariff.whole_tariff _
  have hbyte : CostModel.standard.perByteWritten = 1 := rfl
  cases hq : query cfg (.ofInstrs is) s with
  | ok v t =>
    obtain ⟨o, gas, r, hrun, -, -, rfl⟩ := query_eq_ok.mp hq
    have hsteps := (Machine.run_eq_ok.mp hrun).1
    have hused := Machine.used_of_steps hwhole hsteps
    rw [hn, hbyte, heq _ (Machine.performAll_of_steps hsteps)] at hused
    refine ⟨?_, hrates⟩
    change gas.used = s.context.gas.used + (n + k)
    omega
  | error e t =>
    have hmeter : t.context.gas = Metering.left (Machine.run cfg s.context.rates s.context.tree (.ofInstrs is)
        s.context.gas) := by
      have hm : meter (Metering.left (query cfg (.ofInstrs is) s)) = _ := meter_query
      rwa [hq] at hm
    rw [Machine.left_run] at hmeter
    change t.context.gas.used ≤ s.context.gas.used + (n + k)
    rw [hmeter]
    cases hsteps : Machine.steps cfg s.context.rates 0 (.ofInstrs is) [s.context.tree] s.context.gas with
    | ok x m =>
      have hused := Machine.used_of_steps hwhole hsteps
      rw [hn, hbyte] at hused
      change m.used ≤ _
      omega
    | error e m =>
      have hused := Machine.used_le_of_steps_error hwhole CostModel.payable_standard hsteps
      rw [hn, hbyte] at hused
      change m.used ≤ _
      omega

end Call

end AlignedLedger
