import AlignedLedger.Proofs.Success

/-! What computations come to, be it a success or a failure, taken together: the one has one property,
the other another. -/

namespace AlignedLedger

universe u

variable {ε σ α β : Type u} {s : σ}

/-- A success has the one property, a failure the other. -/
def Ends (r : EStateM.Result ε σ α) (good : α → σ → Prop) (bad : ε → Prop) : Prop :=
  match r with
  | .ok a t => good a t
  | .error e _ => bad e

namespace Ends

variable {good good' : α → σ → Prop} {bad bad' : ε → Prop} {r : EStateM.Result ε σ α}

theorem imp (h : Ends r good bad) (hg : ∀ a t, good a t → good' a t) (hb : ∀ e, bad e → bad' e) :
    Ends r good' bad' := by
  cases r with
  | ok a t => exact hg a t h
  | error e t => exact hb e h

theorem bind {x : EStateM ε σ α} {f : α → EStateM ε σ β} {last : β → σ → Prop}
    (hx : Ends (x s) good bad) (hf : ∀ a t, good a t → Ends (f a t) last bad')
    (hb : ∀ e, bad e → bad' e) : Ends ((x >>= f) s) last bad' := by
  cases h : x s with
  | ok a t =>
    rw [h] at hx
    rw [bind_run_of_ok h]
    exact hf a t hx
  | error e t =>
    rw [h] at hx
    rw [bind_run_of_error h]
    exact hb e hx

theorem ofExcept {x : Except ε α} (hg : ∀ a, x = .ok a → good a s) (hb : ∀ e, x = .error e → bad e) :
    Ends ((MonadExcept.ofExcept x : EStateM ε σ α) s) good bad := by
  cases x with
  | ok a => exact hg a rfl
  | error e => exact hb e rfl

theorem of_ok {a : α} {t : σ} (h : Ends r good bad) (hr : r = .ok a t) : good a t := by
  rwa [hr] at h

theorem of_error {e : ε} {t : σ} (h : Ends r good bad) (hr : r = .error e t) : bad e := by
  rwa [hr] at h

end Ends

end AlignedLedger
