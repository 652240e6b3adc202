import AlignedLedger.Proofs.Machine.Metering

/-! A limit only cuts off. As long as what a computation uses is within the limit, all is as it would be
without one; a computation that uses more stops at the charge that would pass the limit. -/

namespace AlignedLedger

/-- States that hold a meter. -/
class Metering (σ : Type) where
  meter : σ → Meter
  withMeter : Meter → σ → σ
  meter_withMeter : ∀ m s, meter (withMeter m s) = m
  withMeter_meter : ∀ s, withMeter (meter s) s = s

attribute [simp] Metering.meter_withMeter Metering.withMeter_meter

instance : Metering Meter where
  meter m := m
  withMeter m _ := m
  meter_withMeter _ _ := rfl
  withMeter_meter _ := rfl

namespace Metering

variable {σ α β : Type}

/-- The state that a computation leaves, be it after a success or a failure. -/
def left : EStateM.Result Fault σ α → σ
  | .ok _ s => s
  | .error _ s => s

/-- The same end in another state. -/
def mapState (f : σ → σ) : EStateM.Result Fault σ α → EStateM.Result Fault σ α
  | .ok a s => .ok a (f s)
  | .error e s => .error e (f s)

variable [Metering σ] {l : Amount} {s : σ}

def used (s : σ) : Nat := (meter s).used

/-- The same state under a limit. -/
def capped (l : Amount) (s : σ) : σ := withMeter ⟨some l, used s⟩ s

/-- What a limit makes of a computation that comes to the first end without one. -/
structure Cut (l : Amount) (free limited : EStateM.Result Fault σ α) : Prop where
  within : used (left free) ≤ l.value → limited = mapState (capped l) free
  beyond : l.value < used (left free) → ∃ t n,
    limited = .error (.costLimitExceeded (used t) l n) t ∧ (meter t).limit = some l ∧
      used t ≤ l.value ∧ l.value < used t + n.value ∧ used t + n.value ≤ used (left free)

/-- Without a limit the computation uses more if anything, and a limit only cuts it off. -/
structure CutsOff (l : Amount) (x : EStateM Fault σ α) : Prop where
  climbs : ∀ s, (meter s).limit = none →
    (meter (left (x s))).limit = none ∧ used s ≤ used (left (x s))
  cut : ∀ s, (meter s).limit = none → used s ≤ l.value → Cut l (x s) (x (capped l s))

/-- The meter has no bearing on the computation, nor this on the meter. -/
def Unmetered (x : EStateM Fault σ α) : Prop :=
  ∀ m s, x (withMeter m s) = mapState (withMeter m) (x s)

namespace Unmetered

variable {x : EStateM Fault σ α}

theorem meter_left (h : Unmetered x) (s : σ) : meter (left (x s)) = meter s := by
  have hs := h (meter s) s
  rw [withMeter_meter] at hs
  rw [hs]
  cases x s <;> exact meter_withMeter _ _

theorem cutsOff (h : Unmetered x) : CutsOff l x := by
  refine ⟨fun s hs => ?_, fun s _ hl => ⟨fun _ => ?_, fun hlt => ?_⟩⟩
  · rw [used, used, h.meter_left]
    exact ⟨hs, Nat.le_refl _⟩
  · have hu : used (left (x s)) = used s := congrArg Meter.used (h.meter_left s)
    rw [capped, h, ← hu]
    cases x s <;> rfl
  · rw [used, h.meter_left] at hlt
    exact absurd hl (Nat.not_le_of_lt hlt)

end Unmetered

namespace CutsOff

theorem pure (a : α) : CutsOff l (Pure.pure a : EStateM Fault σ α) :=
  Unmetered.cutsOff fun _ _ => rfl

theorem throw (e : Fault) : CutsOff l (MonadExcept.throw e : EStateM Fault σ α) :=
  Unmetered.cutsOff fun _ _ => rfl

theorem ofExcept (x : Except Fault α) : CutsOff l (MonadExcept.ofExcept x : EStateM Fault σ α) := by
  cases x with
  | ok a => exact pure a
  | error e => exact throw e

/-- The first part decides if it passes the limit on its own. -/
theorem bind {x : EStateM Fault σ α} {f : α → EStateM Fault σ β} (hx : CutsOff l x)
    (hf : ∀ a, CutsOff l (f a)) : CutsOff l (x >>= f) := by
  refine ⟨fun s hs => ?_, fun s hs hl => ?_⟩
  · obtain ⟨hnone, hle⟩ := hx.climbs s hs
    cases h : x s with
    | error e t =>
      rw [bind_run_of_error h]
      rw [h] at hnone hle
      exact ⟨hnone, hle⟩
    | ok a t =>
      rw [bind_run_of_ok h]
      rw [h] at hnone hle
      obtain ⟨hnone', hle'⟩ := (hf a).climbs t hnone
      exact ⟨hnone', Nat.le_trans hle hle'⟩
  · obtain ⟨hnone, hle⟩ := hx.climbs s hs
    have hcut := hx.cut s hs hl
    cases h : x s with
    | error e t =>
      rw [h] at hcut
      rw [bind_run_of_error h]
      refine ⟨fun hw => bind_run_of_error (hcut.within hw), fun hb => ?_⟩
      obtain ⟨r, n, hr, hbounds⟩ := hcut.beyond hb
      exact ⟨r, n, bind_run_of_error hr, hbounds⟩
    | ok a t =>
      rw [h] at hnone hcut
      rw [bind_run_of_ok h]
      by_cases ht : used t ≤ l.value
      · rw [bind_run_of_ok (hcut.within ht)]
        exact (hf a).cut t hnone ht
      · -- What follows is not reached under the limit, and without one it gives nothing back.
        have hlt : l.value < used t := Nat.lt_of_not_le ht
        have hle' : used t ≤ used (left (f a t)) := ((hf a).climbs t hnone).2
        obtain ⟨r, n, hr, hlimit, hused, hover, hn⟩ := hcut.beyond hlt
        refine ⟨fun hw => absurd (Nat.le_trans hle' hw) ht, fun _ => ?_⟩
        exact ⟨r, n, bind_run_of_error hr, hlimit, hused, hover, Nat.le_trans hn hle'⟩

/-- Of the state only what a limit leaves as it is may be looked at. -/
theorem get_bind {f : σ → EStateM Fault σ β} (h : ∀ s, f (capped l s) = f s)
    (hf : ∀ s, CutsOff l (f s)) : CutsOff l (get >>= f) := by
  refine ⟨fun s hs => ?_, fun s hs hl => ?_⟩
  · rw [bind_run_of_ok (get_run s)]
    exact (hf s).climbs s hs
  · rw [bind_run_of_ok (get_run s), bind_run_of_ok (get_run (capped l s)), h]
    exact (hf s).cut s hs hl

end CutsOff

end Metering

namespace Machine

open Metering

variable {l : Amount} (cfg : Config) (rates : Tariff)

theorem spend_cutsOff (n : Amount) : CutsOff l (Meter.spend n) := by
  refine ⟨?_, ?_⟩
  · rintro ⟨_, u⟩ ⟨⟩
    exact ⟨rfl, Nat.le_add_right u n.value⟩
  · rintro ⟨_, u⟩ ⟨⟩ hl
    have hcapped : Meter.spend n (capped l ⟨none, u⟩) =
        if u + n.value ≤ l.value then .ok () ⟨some l, u + n.value⟩
        else .error (.costLimitExceeded u l n) ⟨some l, u⟩ := rfl
    refine ⟨fun hw => hcapped.trans (if_pos hw), fun hb => ?_⟩
    exact ⟨⟨some l, u⟩, n, hcapped.trans (if_neg (Nat.not_le_of_lt hb)), rfl, hl, hb, Nat.le_refl _⟩

theorem lasting_cutsOff (l : Amount) : Metered.Lasting fun _ x => CutsOff l x where
  pure _ := .pure
  throw _ := .throw
  bind _ _ _ _ := .bind
  spend := spend_cutsOff

variable [Memory]

theorem run_cutsOff (root : Tree) (p : Program) : CutsOff l (run cfg rates root p) := by
  refine .get_bind (fun _ => rfl) fun before => ?_
  refine .bind ((lasting_cutsOff l).steps cfg rates 0 p [root]) fun x => ?_
  refine .get_bind (fun _ => rfl) fun after => ?_
  obtain ⟨s, _, _⟩ := x
  dsimp only
  split
  · exact .pure _
  · exact .throw _

end Machine

end AlignedLedger
