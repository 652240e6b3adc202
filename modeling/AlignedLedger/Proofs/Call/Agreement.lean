import AlignedLedger.Proofs.Call.Query
import AlignedLedger.Proofs.Machine.Agreement

/-! Two calls side by side that differ in their private parts: what the witnesses gave and what was made
of it. -/

namespace AlignedLedger.Call

variable {cfg : Config} {s t : CallState} {p q : Program} {T T' : Tree → Tree → Prop}
variable {L L' : List Instr → List Instr → Prop} {P : Datum → Datum → Prop} {α : Type}

/-- The two calls have used the same, are open and have one input and one output; their trees, their
public records and their private states are related. -/
structure Alike (T : Tree → Tree → Prop) (L : List Instr → List Instr → Prop) (P : Datum → Datum → Prop)
    (s t : CallState) : Prop where
  tree : T s.context.tree t.context.tree
  rates : s.context.rates = t.context.rates
  gas : s.context.gas = t.context.gas
  record : L s.recorder.publicTranscript t.recorder.publicTranscript
  input : s.recorder.input = t.recorder.input
  output : s.recorder.output = t.recorder.output
  secret : P s.context.privateState t.context.privateState
  isOpen : s.recorder.finished = false ∧ t.recorder.finished = false

/-- Parts of two calls that give the same and leave the calls alike. -/
abbrev InStep (T : Tree → Tree → Prop) (L : List Instr → List Instr → Prop) (P : Datum → Datum → Prop) :
    EStateM.Result Fault CallState α → EStateM.Result Fault CallState α → Prop :=
  RunsAgree fun a s b t => a = b ∧ Alike T L P s t

theorem InStep.void {x y : Call α} (h : InStep T L P (x s) (y t)) :
    InStep T L P ((x >>= fun _ => pure ()) s) ((y >>= fun _ => pure ()) t) := by
  refine RunsAgree.bind h ?_
  rintro _ s _ t ⟨-, hs⟩
  exact ⟨rfl, hs⟩

variable [Memory]

theorem Alike.query (hs : Alike T L P s t)
    (h : RunsAgree (fun o m o' m' => m = m' ∧ T' o.tree o'.tree ∧ o.reads = o'.reads ∧
        ∀ l l', L l l' → L' (l ++ o.executed) (l' ++ o'.executed))
      (Machine.run cfg s.context.rates s.context.tree p s.context.gas)
      (Machine.run cfg t.context.rates t.context.tree q t.context.gas)) :
    InStep T' L' P (query cfg p s) (query cfg q t) := by
  unfold Call.query
  cases hp : Machine.run cfg s.context.rates s.context.tree p s.context.gas with
  | ok o m =>
    cases hq : Machine.run cfg t.context.rates t.context.tree q t.context.gas with
    | ok o' m' =>
      rw [hp, hq] at h
      obtain ⟨rfl, htree, hreads, hrecord⟩ := h
      simp only [recordInstrs_eq_ok.mpr ⟨hs.isOpen.1, rfl⟩, recordInstrs_eq_ok.mpr ⟨hs.isOpen.2, rfl⟩]
      refine ⟨congrArg List.getLast? hreads, htree, hs.rates, rfl, hrecord _ _ hs.record, hs.input,
        hs.output, hs.secret, hs.isOpen⟩
    | error e m' =>
      rw [hp, hq] at h
      exact h.elim
  | error e m =>
    cases hq : Machine.run cfg t.context.rates t.context.tree q t.context.gas with
    | ok o' m' =>
      rw [hp, hq] at h
      exact h.elim
    | error e' m' =>
      rw [hp, hq] at h
      exact h

/-- One program does the same to one tree. -/
theorem Alike.query_same (hs : Alike Eq Eq P s t) (p : Program) :
    InStep Eq Eq P (Call.query cfg p s) (Call.query cfg p t) := by
  refine hs.query ?_
  rw [hs.rates, hs.tree, hs.gas]
  exact RunsAgree.refl _ fun _ _ _ => ⟨rfl, rfl, rfl, fun _ _ h => congrArg (· ++ _) h⟩

theorem Alike.query_instrs (hs : Alike T L P s t) {is js : List Instr}
    (h : Machine.StepsAlike cfg s.context.rates is js [s.context.tree] [t.context.tree]
      fun x y => ∃ u v, x = [u] ∧ y = [v] ∧ T' u v)
    (hL : ∀ l l', L l l' → L' (l ++ is) (l' ++ js)) :
    InStep T' L' P (Call.query cfg (.ofInstrs is) s) (Call.query cfg (.ofInstrs js) t) := by
  refine hs.query ?_
  rw [← hs.rates, ← hs.gas]
  refine (h.runs_agree s.context.gas).imp ?_
  rintro o m o' _ ⟨rfl, htree, hreads, rfl, rfl⟩
  exact ⟨rfl, htree, hreads, hL⟩

end AlignedLedger.Call
