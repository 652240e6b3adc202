import AlignedLedger.Proofs.Board.Circuits
import AlignedLedger.Proofs.Board.Kept

/-! The public record of a board's circuits can be run as one program from where the circuit began. -/

namespace AlignedLedger.Board

open Call

variable {cfg : Config} {rates : Tariff} {root : Tree} {ws : Witnesses View} {α : Type}

section

variable [Memory]

/-- Programs and witnesses leave a record that leads to where they do. -/
theorem keptByParts_faithful : KeptByParts cfg ws (Faithful cfg rates root) where
  read slot cached := query_faithful.bind fun v => by
    cases v with
    | none => exact .throw _
    | some v => exact .ofExcept _
  write slot value := .bind (.ofExcept _) fun _ => query_faithful.bind fun _ => .pure ()
  add slot amount := query_faithful.bind fun _ => .pure ()
  witness name d view := Witnesses.call_faithful

/-- The record that a circuit hands out leads from the root it was called on to the new one, for
what it says it has used. -/
theorem circuit_replay {c : CallContext} {input output : AlignedValue} {body : Call α} {x : α}
    {s : CallState} {result : Datum} {res : CircuitResult}
    (hb : Keeps (Faithful cfg c.rates c.tree) body) (hx : runCircuit cfg c input body = .ok (x, s))
    (hc : close result output s = .ok res) :
    ∃ o m, Machine.run cfg c.rates c.tree (.ofInstrs res.proof.publicTranscript) (.start none) = .ok o m ∧
      o.tree = res.context.tree ∧ o.cost = res.gas.used := by
  obtain ⟨-, hcontext, htranscript, hgas⟩ := close_eq_ok hc
  rw [hcontext, htranscript, hgas]
  exact (hb (runCircuit_eq_ok.mp hx) (Replays.start cfg (c.withMeter (.capped cfg.limit?)) input)).run

theorem post_replay {c : CallContext} {message : Datum} {res : CircuitResult}
    (h : post cfg ws c message = .ok res) :
    ∃ o m, Machine.run cfg c.rates c.tree (.ofInstrs res.proof.publicTranscript) (.start none) = .ok o m ∧
      o.tree = res.context.tree ∧ o.cost = res.gas.used := by
  obtain ⟨input, -, h⟩ := bind_eq_ok.mp h
  obtain ⟨⟨_, s⟩, hx, hc⟩ := bind_eq_ok.mp h
  exact circuit_replay (keptByParts_faithful.postBody message) hx hc

theorem takeDown_replay {c : CallContext} {res : CircuitResult}
    (h : takeDown cfg ws c = .ok res) :
    ∃ o m, Machine.run cfg c.rates c.tree (.ofInstrs res.proof.publicTranscript) (.start none) = .ok o m ∧
      o.tree = res.context.tree ∧ o.cost = res.gas.used := by
  obtain ⟨⟨former, s⟩, hx, h⟩ := bind_eq_ok.mp h
  obtain ⟨output, -, hc⟩ := bind_eq_ok.mp h
  exact circuit_replay keptByParts_faithful.takeDownBody hx hc

/-- What goes on record can be run again. From the root of the first run it comes to the same end in
every respect; from another root it does what the program without any expected reads does there, as
long as the reads are the same. Programs run one after another in a call leave one record, that leads
from the first root to the last whatever failed in between, and so do the circuits of a board, whose
record also costs what they used. -/
theorem transcript_replays (cfg : Config) :
    (∀ (rates : Tariff) (root : Tree) (is : List Instr) (o : Outcome) (m : Meter),
      Machine.run cfg rates root (.ofInstrs is) (.start none) = .ok o m →
        Machine.run cfg rates root (.ofInstrs o.executed) (.start none) = .ok o m ∧
        ∀ (root' : Tree) (o' : Outcome) (m' : Meter),
          Machine.run cfg rates root' (.ofInstrs o.executed) (.start none) = .ok o' m' ↔
            Machine.run cfg rates root' (.ofInstrs (is.map Instr.forgetResult)) (.start none) = .ok o' m' ∧
              o'.reads = o.reads) ∧
    (∀ (c : CallContext) (input : AlignedValue) (ps : List Program),
      let s := Call.queries cfg ps ⟨c, .start input⟩
      ∃ o m, Machine.run cfg c.rates c.tree (.ofInstrs s.recorder.publicTranscript) (.start none) = .ok o m ∧
        o.tree = s.context.tree) ∧
    (∀ (ws : Witnesses View) (c : CallContext) (message : Datum) (res : CircuitResult),
      post cfg ws c message = .ok res →
        ∃ o m, Machine.run cfg c.rates c.tree (.ofInstrs res.proof.publicTranscript) (.start none) = .ok o m ∧
          o.tree = res.context.tree ∧ o.cost = res.gas.used) ∧
    ∀ (ws : Witnesses View) (c : CallContext) (res : CircuitResult),
      takeDown cfg ws c = .ok res →
        ∃ o m, Machine.run cfg c.rates c.tree (.ofInstrs res.proof.publicTranscript) (.start none) = .ok o m ∧
          o.tree = res.context.tree ∧ o.cost = res.gas.used := by
  refine ⟨fun rates root is o m h => ?_, fun c input ps => ?_, fun ws c message res h => ?_,
    fun ws c res h => ?_⟩
  · exact ⟨Machine.run_replay h, fun root' o' m' => Machine.run_executed_iff h⟩
  · obtain ⟨_, hr⟩ := (Replays.start cfg c input).queries ps
    obtain ⟨o, m, ho, ht, -⟩ := hr.run
    exact ⟨o, m, ho, ht⟩
  · exact post_replay h
  · exact takeDown_replay h

end

/-- A read replayed where it was made and refused where another value stands, and the records of a
post and of the take-down after it. -/
theorem replay_of_post_and_takeDown :
    let cfg := Config.ofEnvironment fun _ => none
    let is : List Instr := [.dup 0, .idx false false [.literal Slot.state.key], .popeq true none]
    let root : Tree := .array [.cell Slot.owner.key]
    ∃ c posted taken o m, initialState cfg (.bytes (Bytes.zeros 32)) (.bytes (Bytes.zeros 32)) = .ok c ∧
      post cfg secretKeyWitnesses c (.text "hi") = .ok posted ∧
      takeDown cfg secretKeyWitnesses posted.context = .ok taken ∧
      (∃ o m, Machine.run cfg posted.context.rates posted.context.tree
          (.ofInstrs taken.proof.publicTranscript) (.start none) = .ok o m ∧
        o.tree = taken.context.tree ∧ o.cost = taken.gas.used) ∧
      Machine.run cfg Tariff.standard root (.ofInstrs is) (.start none) = .ok o m ∧
      Machine.run cfg Tariff.standard root (.ofInstrs o.executed) (.start none) = .ok o m ∧
      ∀ o' m', Machine.run cfg Tariff.standard (.array [.cell Slot.state.key]) (.ofInstrs o.executed)
        (.start none) ≠ .ok o' m' := by
  intro cfg is root
  have hcalls : (initialState cfg (.bytes (Bytes.zeros 32)) (.bytes (Bytes.zeros 32)) >>= fun c =>
      post cfg secretKeyWitnesses c (.text "hi") >>= fun r =>
        takeDown cfg secretKeyWitnesses r.context).toBool = true := by
    decide +kernel
  obtain ⟨taken, h⟩ := exists_ok_of_toBool hcalls
  obtain ⟨c, hc, h⟩ := bind_eq_ok.mp h
  obtain ⟨posted, hp, ht⟩ := bind_eq_ok.mp h
  have hread : Machine.run cfg Tariff.standard root (.ofInstrs is) (.start none) =
      .ok ⟨root, [Slot.owner.key], [.dup 0, .idx false false [.literal Slot.state.key],
        .popeq true (some Slot.owner.key)], 11⟩ ⟨none, 11⟩ := rfl
  obtain ⟨hinstrs, -, -, htake⟩ := transcript_replays cfg
  obtain ⟨hsame, hother⟩ := hinstrs _ _ _ _ _ hread
  refine ⟨c, posted, taken, _, _, hc, hp, ht, htake _ _ _ ht, hread, hsame, fun o' m' h => ?_⟩
  obtain ⟨hfree, hreads⟩ := (hother _ o' m').mp h
  have hstate : Machine.run cfg Tariff.standard (.array [.cell Slot.state.key])
      (.ofInstrs (is.map Instr.forgetResult)) (.start none) = .ok ⟨.array [.cell Slot.state.key],
        [Slot.state.key], [.dup 0, .idx false false [.literal Slot.state.key],
        .popeq true (some Slot.state.key)], 11⟩ ⟨none, 11⟩ := rfl
  cases hstate.symm.trans hfree
  exact absurd hreads (by decide)

end AlignedLedger.Board
