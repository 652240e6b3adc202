import AlignedLedger.Proofs.Success

/-! Two computations side by side. They agree if both succeed with related results or both fail with the
same fault; where only successes are compared, the failures may differ. -/

namespace AlignedLedger

universe u v

section Plain

variable {ε : Type u} {α α' β β' : Type v}

/-- Both succeed, with related values, or both fail for one reason. -/
def Agree (R : α → α' → Prop) (x : Except ε α) (y : Except ε α') : Prop :=
  match x, y with
  | .ok a, .ok b => R a b
  | .error e, .error f => e = f
  | _, _ => False

namespace Agree

variable {R : α → α' → Prop} {Q : β → β' → Prop} {x : Except ε α} {y : Except ε α'}

theorem refl {R : α → α → Prop} (x : Except ε α) (h : ∀ a, x = .ok a → R a a) : Agree R x x := by
  cases x with
  | ok a => exact h a rfl
  | error e => exact rfl

theorem imp {R' : α → α' → Prop} (h : Agree R x y) (hr : ∀ a b, R a b → R' a b) : Agree R' x y := by
  cases x with
  | ok a => cases y with
    | ok b => exact hr a b h
    | error f => exact h.elim
  | error e => cases y with
    | ok b => exact h.elim
    | error f => exact h

theorem bind {f : α → Except ε β} {g : α' → Except ε β'} (h : Agree R x y)
    (hfg : ∀ a b, R a b → Agree Q (f a) (g b)) : Agree Q (x >>= f) (y >>= g) := by
  cases x with
  | ok a => cases y with
    | ok b => exact hfg a b h
    | error f => exact h.elim
  | error e => cases y with
    | ok b => exact h.elim
    | error f => exact h

theorem error_iff (h : Agree R x y) (e : ε) : x = .error e ↔ y = .error e := by
  cases x with
  | ok a => cases y with
    | ok b => simp
    | error f => exact h.elim
  | error f => cases y with
    | ok b => exact h.elim
    | error g => rw [show f = g from h]; simp

theorem of_ok {a : α} {b : α'} (h : Agree R x y) (hx : x = .ok a) (hy : y = .ok b) : R a b := by
  rwa [hx, hy] at h

end Agree

end Plain

section Stateful

variable {ε σ τ α α' β β' : Type u} {s : σ} {t : τ}

/-- Both succeed, with related values and states, or both fail for one reason. -/
def RunsAgree (R : α → σ → α' → τ → Prop) (x : EStateM.Result ε σ α) (y : EStateM.Result ε τ α') :
    Prop :=
  match x, y with
  | .ok a s, .ok b t => R a s b t
  | .error e _, .error f _ => e = f
  | _, _ => False

/-- If both succeed, then with related values and states. -/
def BothEnd (R : α → σ → α' → τ → Prop) (x : EStateM.Result ε σ α) (y : EStateM.Result ε τ α') : Prop :=
  ∀ a s b t, x = .ok a s → y = .ok b t → R a s b t

namespace RunsAgree

variable {R : α → σ → α' → τ → Prop} {Q : β → σ → β' → τ → Prop}
variable {r : EStateM.Result ε σ α} {r' : EStateM.Result ε τ α'}

theorem refl {R : α → σ → α → σ → Prop} (r : EStateM.Result ε σ α)
    (h : ∀ a s, r = .ok a s → R a s a s) : RunsAgree R r r := by
  cases r with
  | ok a s => exact h a s rfl
  | error e s => exact rfl

theorem imp {R' : α → σ → α' → τ → Prop} (h : RunsAgree R r r')
    (hr : ∀ a s b t, R a s b t → R' a s b t) : RunsAgree R' r r' := by
  cases r with
  | ok a s => cases r' with
    | ok b t => exact hr a s b t h
    | error f t => exact h.elim
  | error e s => cases r' with
    | ok b t => exact h.elim
    | error f t => exact h

theorem and_left (h : RunsAgree R r r') {P : α → σ → Prop} (hr : ∀ a s, r = .ok a s → P a s) :
    RunsAgree (fun a s b t => R a s b t ∧ P a s) r r' := by
  cases r with
  | ok a s => cases r' with
    | ok b t => exact ⟨h, hr a s rfl⟩
    | error f t => exact h.elim
  | error e s => cases r' with
    | ok b t => exact h.elim
    | error f t => exact h

theorem bind {x : EStateM ε σ α} {y : EStateM ε τ α'} {f : α → EStateM ε σ β}
    {g : α' → EStateM ε τ β'} (h : RunsAgree R (x s) (y t))
    (hfg : ∀ a s b t, R a s b t → RunsAgree Q (f a s) (g b t)) :
    RunsAgree Q ((x >>= f) s) ((y >>= g) t) := by
  cases hx : x s with
  | ok a s' => cases hy : y t with
    | ok b t' =>
      rw [hx, hy] at h
      rw [bind_run_of_ok hx, bind_run_of_ok hy]
      exact hfg a s' b t' h
    | error f t' =>
      rw [hx, hy] at h
      exact h.elim
  | error e s' => cases hy : y t with
    | ok b t' =>
      rw [hx, hy] at h
      exact h.elim
    | error f t' =>
      rw [hx, hy] at h
      rw [bind_run_of_error hx, bind_run_of_error hy]
      exact h

theorem ofExcept {x : Except ε α} {y : Except ε α'} {P : α → α' → Prop} (h : Agree P x y) :
    RunsAgree (fun a s' b t' => P a b ∧ s' = s ∧ t' = t)
      ((MonadExcept.ofExcept x : EStateM ε σ α) s) ((MonadExcept.ofExcept y : EStateM ε τ α') t) := by
  cases x with
  | ok a => cases y with
    | ok b => exact ⟨h, rfl, rfl⟩
    | error f => exact h.elim
  | error e => cases y with
    | ok b => exact h.elim
    | error f => exact h

theorem bothEnd (h : RunsAgree R r r') : BothEnd R r r' := by
  rintro a s b t rfl rfl
  exact h

end RunsAgree

namespace BothEnd

variable {R : α → σ → α' → τ → Prop} {Q : β → σ → β' → τ → Prop}

theorem bind {x : EStateM ε σ α} {y : EStateM ε τ α'} {f : α → EStateM ε σ β}
    {g : α' → EStateM ε τ β'} (h : BothEnd R (x s) (y t))
    (hfg : ∀ a s b t, R a s b t → BothEnd Q (f a s) (g b t)) :
    BothEnd Q ((x >>= f) s) ((y >>= g) t) := by
  intro a s' b t' hx hy
  obtain ⟨c, s'', hc, hx⟩ := bind_run_eq_ok.mp hx
  obtain ⟨d, t'', hd, hy⟩ := bind_run_eq_ok.mp hy
  exact hfg c s'' d t'' (h c s'' d t'' hc hd) a s' b t' hx hy

end BothEnd

end Stateful

end AlignedLedger
