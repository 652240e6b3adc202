import AlignedLedger.Proofs.Call.Query
import AlignedLedger.Proofs.Machine.Replay

/-! The public record of a call leads from the root it began with to the current state, at every point
of the call and whatever has failed on the way. -/

namespace AlignedLedger

theorem Program.ofInstrs_append (is js : List Instr) :
    ofInstrs (is ++ js) = ofInstrs is ++ ofInstrs js :=
  List.map_append

namespace Call

variable {cfg : Config} {rates : Tariff} {root : Tree} {s s' : CallState} {p : Program} {α β : Type}

/-- The instructions on record, run at these rates from a root on, use this much and end in the
current state. -/
structure Replays [Memory] (cfg : Config) (rates : Tariff) (root : Tree) (s : CallState) (cost : Nat) : Prop where
  rates_eq : s.context.rates = rates
  steps : ∃ reads, Machine.steps cfg rates 0 (.ofInstrs s.recorder.publicTranscript) [root]
    (.start none) = .ok ([s.context.tree], reads, s.recorder.publicTranscript) ⟨none, cost⟩

theorem Replays.start [Memory] (cfg : Config) (c : CallContext) (input : AlignedValue) :
    Replays cfg c.rates c.tree ⟨c, .start input⟩ 0 :=
  ⟨rfl, [], rfl⟩

theorem Replays.run [Memory] {cost : Nat} (h : Replays cfg rates root s cost) :
    ∃ o m, Machine.run cfg rates root (.ofInstrs s.recorder.publicTranscript) (.start none) = .ok o m ∧
      o.tree = s.context.tree ∧ o.cost = cost := by
  obtain ⟨reads, hs⟩ := h.steps
  exact ⟨⟨s.context.tree, reads, s.recorder.publicTranscript, cost⟩, _,
    Machine.run_eq_ok.mpr ⟨hs, (Nat.sub_zero _).symm⟩, rfl, rfl⟩

/-- What a program adds to the record is the program itself with its reads filled in, and so it leads
on from the state before. -/
theorem Replays.query_ok [Memory] {cost : Nat} {v : Option AlignedValue} (h : Replays cfg rates root s cost)
    (hq : query cfg p s = .ok v s') :
    ∃ n, s'.context.gas.used = s.context.gas.used + n ∧ Replays cfg rates root s' (cost + n) := by
  obtain ⟨o, gas, r, hrun, hr, -, rfl⟩ := query_eq_ok.mp hq
  obtain ⟨-, rfl⟩ := recordInstrs_eq_ok.mp hr
  obtain ⟨rfl, hfree⟩ := Machine.run_unlimited hrun
  obtain ⟨reads, hs⟩ := h.steps
  have ho := Machine.steps_replay (Machine.run_eq_ok.mp (hfree cost)).1
    (0 + (Program.ofInstrs s.recorder.publicTranscript).length)
  rw [h.rates_eq] at ho
  refine ⟨o.cost, rfl, h.rates_eq, reads ++ o.reads, ?_⟩
  rw [Program.ofInstrs_append]
  exact Machine.steps_append hs ho

theorem Replays.query_error [Memory] {cost : Nat} {e : Fault} (h : Replays cfg rates root s cost)
    (hq : query cfg p s = .error e s') : Replays cfg rates root s' cost := by
  obtain ⟨gas, rfl⟩ := query_eq_error hq
  exact ⟨h.rates_eq, h.steps⟩

/-- The state that a part of a call leaves, be it after a success or a failure. -/
def left : EStateM.Result Fault CallState α → CallState
  | .ok _ s => s
  | .error _ s => s

/-- Runs programs one after another and goes on after those that fail. -/
def queries [Memory] (cfg : Config) (ps : List Program) (s : CallState) : CallState :=
  ps.foldl (fun s p => left (query cfg p s)) s

theorem Replays.queries [Memory] {cost : Nat} (h : Replays cfg rates root s cost) (ps : List Program) :
    ∃ total, Replays cfg rates root (queries cfg ps s) total := by
  induction ps generalizing s cost with
  | nil => exact ⟨cost, h⟩
  | cons p ps ih =>
    rw [Call.queries, List.foldl_cons]
    cases hq : query cfg p s with
    | ok v s' =>
      obtain ⟨n, -, hh⟩ := h.query_ok hq
      exact ih hh
    | error e s' => exact ih (h.query_error hq)

/-- Each success of the part keeps the property. -/
def Keeps (P : CallState → Prop) (x : Call α) : Prop :=
  ∀ ⦃s a s'⦄, x s = .ok a s' → P s → P s'

namespace Keeps

variable {P : CallState → Prop}

theorem pure (a : α) : Keeps P (Pure.pure a) := by
  rintro s _ _ ⟨⟩ h
  exact h

theorem throw (e : Fault) : Keeps P (MonadExcept.throw e : Call α) := by
  rintro s _ _ ⟨⟩

theorem get : Keeps P (MonadState.get : Call CallState) := by
  rintro s _ _ ⟨⟩ h
  exact h

theorem ofExcept (x : Except Fault α) : Keeps P (MonadExcept.ofExcept x) := by
  cases x with
  | ok a => exact pure a
  | error e => exact throw e

theorem bind {x : Call α} {f : α → Call β} (hx : Keeps P x) (hf : ∀ a, Keeps P (f a)) :
    Keeps P (x >>= f) := by
  intro s b s' h hs
  obtain ⟨a, r, ha, hb⟩ := bind_run_eq_ok.mp h
  exact hf a hb (hx ha hs)

end Keeps

variable [Memory]

/-- The record leads to the current state for just what was used. -/
def Faithful (cfg : Config) (rates : Tariff) (root : Tree) (s : CallState) : Prop :=
  Replays cfg rates root s s.context.gas.used

theorem query_faithful : Keeps (Faithful cfg rates root) (query cfg p) := by
  intro s v s' hq h
  obtain ⟨n, hn, hh⟩ := h.query_ok hq
  rwa [Faithful, hn]

end Call

namespace Witnesses

variable {View : Type} {ws : Witnesses View} {name : String} {d : Descriptor} {view : View}

theorem call_faithful [Memory] {cfg : Config} {rates : Tariff} {root : Tree} :
    Call.Keeps (Call.Faithful cfg rates root) (ws.call name d view) := by
  intro s value s' h hs
  obtain ⟨_, _, v, r, -, -, -, hr, rfl⟩ := exists_of_call h
  obtain ⟨-, rfl⟩ := Call.recordPrivate_eq_ok.mp hr
  exact ⟨hs.rates_eq, hs.steps⟩

end Witnesses

end AlignedLedger
