import Mathlib.Data.List.Forall2

/-! When computations that may fail come to their end: the steps of a success taken apart, for plain
ones and for those that carry a state along. -/

namespace AlignedLedger

universe u v

section Plain

variable {ε : Type u} {α β : Type v}

@[simp] theorem ok_bind (a : α) (f : α → Except ε β) : (Except.ok a >>= f) = f a := rfl

@[simp] theorem error_bind (e : ε) (f : α → Except ε β) : (Except.error e >>= f) = .error e := rfl

@[simp] theorem pure_eq_ok (a : α) : (pure a : Except ε α) = .ok a := rfl

@[simp] theorem throw_eq_error (e : ε) : (throw e : Except ε α) = .error e := rfl

@[simp] theorem ok_map (a : α) (f : α → β) : (Except.ok a : Except ε α).map f = .ok (f a) := rfl

@[simp] theorem error_map (e : ε) (f : α → β) : (Except.error e : Except ε α).map f = .error e := rfl

theorem bind_eq_ok {x : Except ε α} {f : α → Except ε β} {b : β} :
    x >>= f = .ok b ↔ ∃ a, x = .ok a ∧ f a = .ok b := by
  cases x with
  | ok a => simp
  | error e => simp

theorem map_eq_ok {x : Except ε α} {f : α → β} {b : β} :
    x.map f = .ok b ↔ ∃ a, x = .ok a ∧ f a = b := by
  cases x with
  | ok a => simp
  | error e => simp

theorem bind_eq_error {x : Except ε α} {f : α → Except ε β} {e : ε} :
    x >>= f = .error e ↔ x = .error e ∨ ∃ a, x = .ok a ∧ f a = .error e := by
  cases x with
  | ok a => simp
  | error e => simp

theorem map_eq_error {x : Except ε α} {f : α → β} {e : ε} : x.map f = .error e ↔ x = .error e := by
  cases x with
  | ok a => simp
  | error e => simp

theorem exists_map {x : Except ε α} {f : α → β} : (∃ b, x.map f = .ok b) ↔ ∃ a, x = .ok a := by
  cases x <;> simp

theorem bind_pure_eq_map {x : Except ε α} {f : α → β} : (x >>= fun a => pure (f a)) = x.map f := by
  cases x <;> rfl

theorem exists_ok_of_toBool {x : Except ε α} (h : x.toBool = true) : ∃ a, x = .ok a := by
  cases x with
  | ok a => exact ⟨a, rfl⟩
  | error e => simp [Except.toBool] at h

theorem mapM_eq_ok {γ : Type v} {f : γ → Except ε α} {xs : List γ} {ys : List α} :
    xs.mapM f = .ok ys ↔ List.Forall₂ (fun x y => f x = .ok y) xs ys := by
  induction xs generalizing ys with
  | nil => simp [eq_comm]
  | cons x xs ih =>
    simp only [List.mapM_cons, bind_eq_ok, pure_eq_ok, Except.ok.injEq, ih, List.forall₂_cons_left_iff]
    constructor
    · rintro ⟨y, hy, ys, hys, rfl⟩
      exact ⟨y, ys, hy, hys, rfl⟩
    · rintro ⟨y, ys, hy, hys, rfl⟩
      exact ⟨y, hy, ys, hys, rfl⟩

theorem mapM_map_eq_ok {γ δ : Type v} {f : γ → Except ε α} {g : δ → γ} {h : δ → α} {xs : List δ}
    (hf : ∀ x ∈ xs, f (g x) = .ok (h x)) : (xs.map g).mapM f = .ok (xs.map h) := by
  rw [mapM_eq_ok, List.forall₂_map_left_iff, List.forall₂_map_right_iff, List.forall₂_same]
  exact hf

/-- Where each element comes back from its image, the list comes back from the images. -/
theorem mapM_map_ok {γ : Type v} {f : γ → Except ε α} {g : α → γ} {xs : List α}
    (h : ∀ x ∈ xs, f (g x) = .ok x) : (xs.map g).mapM f = .ok xs := by
  simpa using mapM_map_eq_ok (h := id) h

theorem exists_mapM_ok {γ : Type v} {f : γ → Except ε α} {xs : List γ} :
    (∃ ys, xs.mapM f = .ok ys) ↔ ∀ x ∈ xs, ∃ y, f x = .ok y := by
  induction xs with
  | nil => simp
  | cons x xs ih =>
    rw [List.forall_mem_cons, ← ih]
    simp only [List.mapM_cons, bind_eq_ok, pure_eq_ok, Except.ok.injEq]
    constructor
    · rintro ⟨_, y, hy, ys, hys, rfl⟩
      exact ⟨⟨y, hy⟩, ys, hys⟩
    · rintro ⟨⟨y, hy⟩, ys, hys⟩
      exact ⟨_, y, hy, ys, hys, rfl⟩

/-- The first element that fails decides. -/
theorem mapM_eq_error {γ : Type v} {f : γ → Except ε α} {xs : List γ} {e : ε} :
    xs.mapM f = .error e ↔ ∃ before x after,
      xs = before ++ x :: after ∧ (∃ ys, before.mapM f = .ok ys) ∧ f x = .error e := by
  induction xs with
  | nil => simp
  | cons x xs ih =>
    rw [List.mapM_cons]
    constructor
    · intro h
      rcases bind_eq_error.mp h with hx | ⟨y, hy, h⟩
      · exact ⟨[], x, xs, rfl, ⟨[], rfl⟩, hx⟩
      · rcases bind_eq_error.mp h with h | ⟨ys, -, ⟨⟩⟩
        obtain ⟨before, z, after, rfl, ⟨ys, hys⟩, hz⟩ := ih.mp h
        refine ⟨x :: before, z, after, rfl, ⟨y :: ys, ?_⟩, hz⟩
        rw [List.mapM_cons, hy, ok_bind, hys]
        rfl
    · rintro ⟨before, z, after, hxs, ⟨ys, hys⟩, hz⟩
      cases before with
      | nil =>
        obtain ⟨rfl, rfl⟩ := List.cons.inj hxs
        rw [hz, error_bind]
      | cons w before =>
        obtain ⟨rfl, rfl⟩ := List.cons.inj hxs
        rw [List.mapM_cons] at hys
        obtain ⟨y, hy, hys⟩ := bind_eq_ok.mp hys
        obtain ⟨zs, hzs, -⟩ := bind_eq_ok.mp hys
        rw [hy, ok_bind, ih.mpr ⟨before, z, after, rfl, ⟨zs, hzs⟩, hz⟩, error_bind]

theorem exists_of_mapM_error {γ : Type v} {f : γ → Except ε α} {xs : List γ} {e : ε}
    (h : xs.mapM f = .error e) : ∃ x ∈ xs, f x = .error e := by
  obtain ⟨before, x, after, rfl, -, hx⟩ := mapM_eq_error.mp h
  exact ⟨x, by simp, hx⟩

theorem exists_of_forM_error {γ : Type v} {f : γ → Except ε PUnit} {xs : List γ} {e : ε}
    (h : xs.forM f = .error e) : ∃ x ∈ xs, f x = .error e := by
  induction xs with
  | nil => simp at h
  | cons x xs ih =>
    rw [List.forM_eq_forM] at ih
    rw [List.forM_eq_forM, List.forM_cons] at h
    rcases bind_eq_error.mp h with hx | ⟨⟨⟩, -, h⟩
    · exact ⟨x, List.mem_cons_self, hx⟩
    · obtain ⟨z, hz, he⟩ := ih h
      exact ⟨z, List.mem_cons_of_mem _ hz, he⟩

theorem forM_eq_ok {γ : Type v} {f : γ → Except ε PUnit} {xs : List γ} :
    xs.forM f = .ok ⟨⟩ ↔ ∀ x ∈ xs, f x = .ok ⟨⟩ := by
  induction xs with
  | nil => simp
  | cons x xs ih =>
    rw [List.forM_eq_forM] at ih
    rw [List.forM_eq_forM, List.forM_cons, bind_eq_ok, List.forall_mem_cons, ← ih]
    exact ⟨fun ⟨_, h⟩ => h, fun h => ⟨⟨⟩, h⟩⟩

end Plain

section Stateful

variable {ε σ α β : Type u} {s t : σ}

@[simp] theorem pure_run (a : α) (s : σ) : (pure a : EStateM ε σ α) s = .ok a s := rfl

@[simp] theorem throw_run (e : ε) (s : σ) : (throw e : EStateM ε σ α) s = .error e s := rfl

@[simp] theorem get_run (s : σ) : (get : EStateM ε σ σ) s = .ok s s := rfl

@[simp] theorem ofExcept_ok (a : α) (s : σ) :
    (MonadExcept.ofExcept (.ok a) : EStateM ε σ α) s = .ok a s := rfl

@[simp] theorem ofExcept_error (e : ε) (s : σ) :
    (MonadExcept.ofExcept (.error e) : EStateM ε σ α) s = .error e s := rfl

theorem bind_run_of_ok {x : EStateM ε σ α} {f : α → EStateM ε σ β} {a : α} (h : x s = .ok a t) :
    (x >>= f) s = f a t := by
  simp only [bind, EStateM.bind, h]

theorem bind_run_of_error {x : EStateM ε σ α} {f : α → EStateM ε σ β} {e : ε} (h : x s = .error e t) :
    (x >>= f) s = .error e t := by
  simp only [bind, EStateM.bind, h]

theorem run'_of_ok {x : EStateM ε σ α} {a : α} (h : x s = .ok a t) : x.run' s = some a := by
  have hx : x.run' s = EStateM.run' (fun _ => x s) s := rfl
  rw [hx, h]
  rfl

theorem run'_of_error {x : EStateM ε σ α} {e : ε} (h : x s = .error e t) : x.run' s = none := by
  have hx : x.run' s = EStateM.run' (fun _ => x s) s := rfl
  rw [hx, h]
  rfl

theorem ofExcept_run_of_ok {x : Except ε α} {a : α} (h : x = .ok a) :
    (MonadExcept.ofExcept x : EStateM ε σ α) s = .ok a s := by
  rw [h, ofExcept_ok]

theorem ofExcept_run_of_error {x : Except ε α} {e : ε} (h : x = .error e) :
    (MonadExcept.ofExcept x : EStateM ε σ α) s = .error e s := by
  rw [h, ofExcept_error]

theorem bind_run_eq_ok {x : EStateM ε σ α} {f : α → EStateM ε σ β} {b : β} :
    (x >>= f) s = .ok b t ↔ ∃ a r, x s = .ok a r ∧ f a r = .ok b t := by
  cases h : x s with
  | ok a r => simp [bind, EStateM.bind, h, and_assoc]
  | error e r => simp [bind, EStateM.bind, h]

theorem bind_run_eq_error {x : EStateM ε σ α} {f : α → EStateM ε σ β} {e : ε} :
    (x >>= f) s = .error e t ↔ x s = .error e t ∨ ∃ a r, x s = .ok a r ∧ f a r = .error e t := by
  cases h : x s with
  | ok a r => simp [bind, EStateM.bind, h, and_assoc]
  | error e r => simp [bind, EStateM.bind, h]

theorem ofExcept_run_eq_ok {x : Except ε α} {a : α} :
    (MonadExcept.ofExcept x : EStateM ε σ α) s = .ok a t ↔ x = .ok a ∧ t = s := by
  cases x with
  | ok b => simp [eq_comm]
  | error e => simp

theorem bind_ofExcept_run {x : Except ε α} {f : α → EStateM ε σ β} {b : β} :
    (MonadExcept.ofExcept x >>= f) s = .ok b t ↔ ∃ a, x = .ok a ∧ f a s = .ok b t := by
  cases x with
  | ok a =>
    rw [bind_run_of_ok (ofExcept_ok a s)]
    simp
  | error e => simp [bind, EStateM.bind]

theorem bind_ofExcept_run_error {x : Except ε α} {f : α → EStateM ε σ β} {e : ε} :
    (MonadExcept.ofExcept x >>= f) s = .error e t ↔
      x = .error e ∧ t = s ∨ ∃ a, x = .ok a ∧ f a s = .error e t := by
  cases x with
  | ok a =>
    rw [bind_run_of_ok (ofExcept_ok a s)]
    simp
  | error e =>
    rw [bind_run_of_error (ofExcept_error e s)]
    simp [eq_comm]

/-- What comes of the computation from this state, with the state that a success leaves. -/
def attempt (x : EStateM ε σ α) (s : σ) : Except ε (α × σ) :=
  match x s with
  | .ok a t => .ok (a, t)
  | .error e _ => .error e

theorem attempt_eq_ok {x : EStateM ε σ α} {a : α} : attempt x s = .ok (a, t) ↔ x s = .ok a t := by
  unfold attempt
  cases x s <;> simp

theorem attempt_bind {x : EStateM ε σ α} {f : α → EStateM ε σ β} :
    attempt (x >>= f) s = attempt x s >>= fun p => attempt (f p.1) p.2 := by
  cases h : x s with
  | ok a t => simp only [attempt, bind_run_of_ok h, h, ok_bind]
  | error e t => simp only [attempt, bind_run_of_error h, h, error_bind]

@[simp] theorem attempt_pure (a : α) : attempt (pure a : EStateM ε σ α) s = .ok (a, s) := rfl

@[simp] theorem attempt_throw (e : ε) : attempt (throw e : EStateM ε σ α) s = .error e := rfl

@[simp] theorem attempt_ofExcept (x : Except ε α) :
    attempt (MonadExcept.ofExcept x : EStateM ε σ α) s = x.map fun a => (a, s) := by
  cases x <;> rfl

end Stateful

end AlignedLedger
