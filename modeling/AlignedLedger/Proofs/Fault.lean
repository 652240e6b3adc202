import AlignedLedger.Fault
import AlignedLedger.Proofs.Success
import Mathlib.Algebra.Group.Nat.Defs

/-! Which faults reach the caller as reports: those of a kind that is reported, as long as no number in
the message is too long to be written. Of a computation made of parts, the first that fails decides. -/

namespace AlignedLedger

theorem Text.le_writableBound : 2 ^ 64 ≤ writableBound := by
  have hpow : ∀ n, 20 ≤ n → 2 ^ 64 ≤ Nat.pow 10 n := fun n hn =>
    Nat.le_trans (by decide) (Nat.pow_le_pow_right (by decide) hn)
  unfold writableBound
  exact hpow mostDigits (by decide)

theorem Text.isWritable_of_lt {i : Int} (h : i.natAbs < 2 ^ 64) : isWritable i = true :=
  decide_eq_true (Nat.lt_of_lt_of_le h le_writableBound)

theorem Text.isWritable_of_le {m n : Nat} (h : m ≤ n) (hm : isWritable m = false) :
    isWritable n = false := by
  rw [isWritable, decide_eq_false_iff_not] at hm ⊢
  omega

theorem Datum.isWritable_natCast {n : Nat} (h : n < 2 ^ 64) : (Datum.int n).isWritable = true :=
  Text.isWritable_of_lt h

theorem Datum.isWritable_of_index {d : Datum} {i : Int} (hd : d.index? = some i)
    (hi : Text.isWritable i = true) : d.isWritable = true := by
  cases d with
  | int j =>
    obtain rfl : j = i := by simpa [index?, integer?] using hd
    simpa [isWritable] using hi
  | member cls name j =>
    obtain rfl : j = i := by simpa [index?, integer?] using hd
    simpa [isWritable] using hi
  | bool b => simp [isWritable]
  | _ => simp [index?, integer?] at hd

namespace Fault

/-- What reaches the caller in the end is a report, with its code and its message. -/
def IsReported (f : Fault) : Prop := f.told.kind.isReported = true

theorem isReported_iff {f : Fault} :
    f.IsReported ↔ f.kind.isReported = true ∧ f.spelled.all Datum.isWritable = true := by
  unfold IsReported told
  by_cases h : f.spelled.all Datum.isWritable = true
  · rw [if_pos h]
    exact ⟨fun hk => ⟨hk, h⟩, And.left⟩
  · rw [if_neg h]
    exact ⟨fun hk => absurd hk (by decide), fun hk => absurd hk.2 h⟩

theorem isReported_of_spelled_nil {f : Fault} (hk : f.kind.isReported = true) (hs : f.spelled = []) :
    f.IsReported :=
  isReported_iff.mpr ⟨hk, by rw [hs]; rfl⟩

/-- Numbers of at most eight bytes never stand in the way of a report. -/
theorem isReported_of_spelled_nat {f : Fault} {n : Nat} (hk : f.kind.isReported = true)
    (hs : f.spelled = [.int n]) (hn : n < 2 ^ 64) : f.IsReported :=
  isReported_iff.mpr ⟨hk, by simp [hs, Datum.isWritable_natCast hn]⟩

theorem isReported_of_spelled_lengths {f : Fault} {a : Alignment} (hk : f.kind.isReported = true)
    (hs : f.spelled = lengths a) (ha : ∀ x ∈ a, x.length < 2 ^ 64) : f.IsReported := by
  refine isReported_iff.mpr ⟨hk, ?_⟩
  rw [hs, List.all_eq_true]
  intro d hd
  obtain ⟨x, hx, rfl⟩ := List.mem_map.mp hd
  exact Datum.isWritable_natCast (ha x hx)

theorem not_isReported_of_kind {f : Fault} (hk : f.kind.isReported = false) : ¬ f.IsReported := by
  rw [isReported_iff, hk]
  simp

/-- What is spelled out can stand in the way of a report. -/
theorem not_isReported_iff_of_spelled {f : Fault} {d : Datum} (hk : f.kind.isReported = true)
    (hs : f.spelled = [d]) : ¬ f.IsReported ↔ d.isWritable = false := by
  rw [isReported_iff, hk, hs]
  simp

theorem told_of_isReported {e : Fault} (h : e.IsReported) : e.told = e :=
  if_pos (isReported_iff.mp h).2

/-- Telling again changes nothing. -/
theorem isReported_told {e : Fault} : e.told.IsReported ↔ e.IsReported := by
  by_cases h : e.spelled.all Datum.isWritable = true
  · have htold : e.told = e := if_pos h
    rw [htold]
  · have htold : e.told = .badValue := if_neg h
    rw [htold, isReported_iff, isReported_iff]
    exact ⟨fun hk => absurd hk.1 (by decide), fun hk => absurd hk.2 h⟩

end Fault

variable {α β γ : Type} {x : Except Fault α} {f : γ → Except Fault α} {xs : List γ}

/-- It fails, and no report is made of that. -/
def Unreported (x : Except Fault α) : Prop := ∃ e, x = .error e ∧ ¬ e.IsReported

theorem unreported_error {e : Fault} : Unreported (.error e : Except Fault α) ↔ ¬ e.IsReported := by
  simp [Unreported]

theorem unreported_error_of_spelled {e : Fault} {d : Datum} (hk : e.kind.isReported = true)
    (hs : e.spelled = [d]) : Unreported (.error e : Except Fault α) ↔ d.isWritable = false :=
  unreported_error.trans (Fault.not_isReported_iff_of_spelled hk hs)

theorem not_unreported_error {e : Fault} (hk : e.kind.isReported = true) (hs : e.spelled = []) :
    ¬ Unreported (.error e : Except Fault α) :=
  fun h => unreported_error.mp h (Fault.isReported_of_spelled_nil hk hs)

theorem not_unreported_ok (a : α) : ¬ Unreported (.ok a : Except Fault α) := by
  simp [Unreported]

theorem not_unreported_iff :
    ¬ Unreported x ↔ (∃ a, x = .ok a) ∨ ∃ e, x = .error e ∧ e.IsReported := by
  cases x with
  | ok a => simp [Unreported]
  | error e => simp [Unreported]

theorem unreported_bind {g : α → Except Fault β} :
    Unreported (x >>= g) ↔ Unreported x ∨ ∃ a, x = .ok a ∧ Unreported (g a) := by
  cases x with
  | ok a => simp [Unreported]
  | error e => simp [Unreported]

/-- Where what follows does not depend on the value, it matters only that there is one. -/
theorem unreported_bind_of_forall {g : α → Except Fault β} {p : Prop} (h : ∀ a, Unreported (g a) ↔ p) :
    Unreported (x >>= g) ↔ Unreported x ∨ (∃ a, x = .ok a) ∧ p := by
  rw [unreported_bind]
  simp only [h, exists_and_right]

theorem unreported_map {g : α → β} : Unreported (x.map g) ↔ Unreported x := by
  simp [Unreported, map_eq_error]

/-- Where there is no other way to fail, whatever fails is unreported. -/
theorem unreported_iff_of_forall (h : ∀ e, x = .error e → ¬ e.IsReported) :
    Unreported x ↔ ¬ ∃ a, x = .ok a := by
  cases x with
  | ok a => simp [Unreported]
  | error e => simpa [Unreported] using h e rfl

theorem unreported_mapM :
    Unreported (xs.mapM f) ↔
      ∃ before x after, xs = before ++ x :: after ∧ (∃ ys, before.mapM f = .ok ys) ∧ Unreported (f x) := by
  constructor
  · rintro ⟨e, he, hr⟩
    obtain ⟨before, x, after, hxs, hbefore, hx⟩ := mapM_eq_error.mp he
    exact ⟨before, x, after, hxs, hbefore, e, hx, hr⟩
  · rintro ⟨before, x, after, hxs, hbefore, e, hx, hr⟩
    exact ⟨e, mapM_eq_error.mpr ⟨before, x, after, hxs, hbefore, hx⟩, hr⟩

/-- What is out of range is told, if the number is not too long. -/
theorem unreported_unless {p : Prop} [Decidable p] {a : α} {e : Fault} {w : Datum}
    (hk : e.kind.isReported = true) (hs : e.spelled = [w]) :
    Unreported (if p then .ok a else .error e) ↔ ¬ p ∧ w.isWritable = false := by
  by_cases hp : p
  · rw [if_pos hp]
    simp [hp, Unreported]
  · rw [if_neg hp, unreported_error_of_spelled hk hs]
    simp [hp]

variable {k : FaultKind}

/-- All faults that are reported are of this kind. -/
def ReportsOnly (k : FaultKind) (x : Except Fault α) : Prop :=
  ∀ e, x = .error e → e.IsReported → e.kind = k

/-- Something else than a report of the one kind is told exactly where nothing is reported. -/
theorem ReportsOnly.exists_told_ne (h : ReportsOnly k x) (hk : k.isReported = true) :
    (∃ e, x = .error e ∧ e.told.kind ≠ k) ↔ Unreported x := by
  constructor
  · rintro ⟨e, he, hne⟩
    refine ⟨e, he, fun hr => hne ?_⟩
    rw [Fault.told_of_isReported hr]
    exact h e he hr
  · rintro ⟨e, he, hr⟩
    refine ⟨e, he, fun heq => hr ?_⟩
    rw [Fault.IsReported, heq]
    exact hk

namespace ReportsOnly

theorem ok (a : α) : ReportsOnly k (.ok a : Except Fault α) := by
  rintro e ⟨⟩

theorem error {e : Fault} (h : e.kind = k) : ReportsOnly k (.error e : Except Fault α) := by
  rintro _ ⟨⟩ -
  exact h

theorem of_not_isReported (h : ∀ e, x = .error e → ¬ e.IsReported) : ReportsOnly k x :=
  fun e he hr => absurd hr (h e he)

theorem bind {f : α → Except Fault β} (hx : ReportsOnly k x) (hf : ∀ a, ReportsOnly k (f a)) :
    ReportsOnly k (x >>= f) := by
  intro e he
  rcases bind_eq_error.mp he with he | ⟨a, -, he⟩
  · exact hx e he
  · exact hf a e he

theorem map {f : α → β} (hx : ReportsOnly k x) : ReportsOnly k (x.map f) := by
  intro e he
  exact hx e (map_eq_error.mp he)

theorem mapM {f : γ → Except Fault α} {xs : List γ} (hf : ∀ x ∈ xs, ReportsOnly k (f x)) :
    ReportsOnly k (xs.mapM f) := by
  intro e he
  obtain ⟨x, hx, he⟩ := exists_of_mapM_error he
  exact hf x hx e he

end ReportsOnly

section Stateful

variable {σ : Type} {r : EStateM Fault σ α} {g : α → EStateM Fault σ β} {s : σ}

theorem unreported_attempt_bind : Unreported (attempt (r >>= g) s) ↔
    Unreported (attempt r s) ∨ ∃ a t, r s = .ok a t ∧ Unreported (attempt (g a) t) := by
  rw [attempt_bind, unreported_bind]
  simp only [Prod.exists, attempt_eq_ok]

theorem ReportsOnly.attempt_bind (hr : ReportsOnly k (attempt r s))
    (hg : ∀ a t, ReportsOnly k (attempt (g a) t)) : ReportsOnly k (attempt (r >>= g) s) := by
  rw [AlignedLedger.attempt_bind]
  exact hr.bind fun p => hg p.1 p.2

end Stateful

end AlignedLedger
