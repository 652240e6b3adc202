import AlignedLedger.Call.Session
import AlignedLedger.Proofs.Call.Query

/-! Recorders over whole sessions. Until the first finish a recorder only takes in more; from then on it
stays as it is, and every finish gives the same record. -/

namespace AlignedLedger

/-- What is asked of a recorder. -/
inductive Recorder.Request where
  | instrs (is : List Instr)
  | privateOutput (v : AlignedValue)
  | output (v : AlignedValue)
  | finish
deriving DecidableEq

/-- A request with what it was answered. -/
abbrev Recorder.Answered := Request × Except Fault (Option ProofRecord)

open Recorder (Request Answered)

namespace Session

/-- Only a finish gives a record. -/
def carryOut : Request → InSession (Option ProofRecord)
  | .instrs is => (fun _ => none) <$> recordSteps (.ofInstrs is)
  | .privateOutput v => (fun _ => none) <$> recordPrivate (.inl v)
  | .output v => (fun _ => none) <$> setOutput (.inl v)
  | .finish => some <$> finish

/-- A session in which everything can go on record. -/
def ofRecorder (c : CallContext) (r : Recorder) : Session := ⟨⟨c, r⟩, .none⟩

section Answers

variable {c : CallContext} {r : Recorder}

/-- All of the steps are instructions, so none of them is counted as a stray. -/
theorem carryOut_instrs (ho : r.finished = false) (is : List Instr) :
    carryOut (.instrs is) (ofRecorder c r) =
      .ok none (ofRecorder c { r with publicTranscript := r.publicTranscript ++ is }) := by
  cases r
  subst ho
  have hlength : (Program.ofInstrs is).length - is.length = 0 := by simp [Program.ofInstrs]
  simp only [carryOut, recordSteps, Program.instrs_ofInstrs, hlength]
  rfl

theorem carryOut_privateOutput (ho : r.finished = false) (v : AlignedValue) :
    carryOut (.privateOutput v) (ofRecorder c r) =
      .ok none (ofRecorder c { r with privateOutputs := r.privateOutputs ++ [v] }) := by
  cases r
  subst ho
  rfl

theorem carryOut_output (ho : r.finished = false) (hn : r.output = none) (v : AlignedValue) :
    carryOut (.output v) (ofRecorder c r) = .ok none (ofRecorder c { r with output := some v }) := by
  cases r
  subst ho hn
  rfl

theorem carryOut_output_again (ho : r.finished = false) {w : AlignedValue} (hw : r.output = some w)
    (v : AlignedValue) :
    carryOut (.output v) (ofRecorder c r) = .error .outputAlreadySet (ofRecorder c r) := by
  cases r
  subst ho hw
  rfl

theorem carryOut_finish :
    carryOut .finish (ofRecorder c r) = .ok (some r.finish.toProof) (ofRecorder c r.finish) :=
  rfl

theorem carryOut_of_finished (hf : r.finished = true) {q : Request} (hq : q ≠ .finish) :
    carryOut q (ofRecorder c r) = .error .transcriptFinished (ofRecorder c r) := by
  cases r
  subst hf
  cases q with
  | finish => exact absurd rfl hq
  | _ => rfl

end Answers

end Session

open Session (carryOut ofRecorder)

/-- A recorder with all that has been asked of it, oldest first. -/
structure RecorderHistory where
  session : Session
  answered : List Answered

namespace RecorderHistory

def start (c : CallContext) (input : AlignedValue) : RecorderHistory := ⟨.start c (.inl input), []⟩

def ask (h : RecorderHistory) (q : Request) : RecorderHistory :=
  match carryOut q h.session with
  | .ok p s => ⟨s, h.answered ++ [(q, .ok p)]⟩
  | .error e s => ⟨s, h.answered ++ [(q, .error e)]⟩

def recorder (h : RecorderHistory) : Recorder := h.session.call.recorder

/-- The lists of instructions that were taken in. -/
def instrs (h : RecorderHistory) : List (List Instr) :=
  h.answered.filterMap fun
    | (.instrs is, .ok _) => some is
    | _ => none

def privateOutputs (h : RecorderHistory) : List AlignedValue :=
  h.answered.filterMap fun
    | (.privateOutput v, .ok _) => some v
    | _ => none

def outputs (h : RecorderHistory) : List AlignedValue :=
  h.answered.filterMap fun
    | (.output v, .ok _) => some v
    | _ => none

variable {h : RecorderHistory} {c : CallContext} {r : Recorder} {q : Request} {s : Session}

theorem ask_of_ok {p : Option ProofRecord} (ha : carryOut q h.session = .ok p s) :
    h.ask q = ⟨s, h.answered ++ [(q, .ok p)]⟩ := by
  rw [ask, ha]

theorem ask_of_error {e : Fault} (ha : carryOut q h.session = .error e s) :
    h.ask q = ⟨s, h.answered ++ [(q, .error e)]⟩ := by
  rw [ask, ha]

/-- The recorder is just what the answers so far make of its input. -/
structure Keeps (h : RecorderHistory) (c : CallContext) (r : Recorder) : Prop where
  session : h.session = ofRecorder c r
  instrs : r.publicTranscript = h.instrs.flatten
  privateOutputs : r.privateOutputs = h.privateOutputs
  output : r.output = if r.finished then some (h.outputs.head?.getD .empty) else h.outputs.head?
  once : h.outputs.length ≤ 1

/-- A request that is refused leaves no trace but its answer. -/
theorem Keeps.refused (hk : h.Keeps c r) (q : Request) (e : Fault) :
    Keeps ⟨ofRecorder c r, h.answered ++ [(q, .error e)]⟩ c r where
  session := rfl
  instrs := by cases q <;> simp [hk.instrs, RecorderHistory.instrs]
  privateOutputs := by cases q <;> simp [hk.privateOutputs, RecorderHistory.privateOutputs]
  output := by cases q <;> simp [hk.output, RecorderHistory.outputs]
  once := by cases q <;> simpa [RecorderHistory.outputs] using hk.once

theorem Keeps.finish (hk : h.Keeps c r) (p : ProofRecord) :
    Keeps ⟨ofRecorder c r.finish, h.answered ++ [(.finish, .ok (some p))]⟩ c r.finish where
  session := rfl
  instrs := by simp [Recorder.finish, hk.instrs, RecorderHistory.instrs]
  privateOutputs := by simp [Recorder.finish, hk.privateOutputs, RecorderHistory.privateOutputs]
  output := by cases hf : r.finished <;> simp [Recorder.finish, hk.output, hf, RecorderHistory.outputs]
  once := by simpa [RecorderHistory.outputs] using hk.once

section Open

variable (ho : r.finished = false)
include ho

theorem Keeps.output_of_open (hk : h.Keeps c r) : r.output = h.outputs.head? := by
  rw [hk.output, ho, if_neg Bool.false_ne_true]

theorem Keeps.recordInstrs (hk : h.Keeps c r) (is : List Instr) :
    Keeps ⟨ofRecorder c { r with publicTranscript := r.publicTranscript ++ is },
        h.answered ++ [(.instrs is, .ok none)]⟩ c
      { r with publicTranscript := r.publicTranscript ++ is } where
  session := rfl
  instrs := by simp [hk.instrs, RecorderHistory.instrs]
  privateOutputs := by simp [hk.privateOutputs, RecorderHistory.privateOutputs]
  output := by simp [hk.output_of_open ho, ho, RecorderHistory.outputs]
  once := by simpa [RecorderHistory.outputs] using hk.once

theorem Keeps.recordPrivate (hk : h.Keeps c r) (v : AlignedValue) :
    Keeps ⟨ofRecorder c { r with privateOutputs := r.privateOutputs ++ [v] },
        h.answered ++ [(.privateOutput v, .ok none)]⟩ c
      { r with privateOutputs := r.privateOutputs ++ [v] } where
  session := rfl
  instrs := by simp [hk.instrs, RecorderHistory.instrs]
  privateOutputs := by simp [hk.privateOutputs, RecorderHistory.privateOutputs]
  output := by simp [hk.output_of_open ho, ho, RecorderHistory.outputs]
  once := by simpa [RecorderHistory.outputs] using hk.once

theorem Keeps.setOutput (hk : h.Keeps c r) (hnone : h.outputs = []) (v : AlignedValue) :
    Keeps ⟨ofRecorder c { r with output := some v }, h.answered ++ [(.output v, .ok none)]⟩ c
      { r with output := some v } := by
  have houtputs : outputs ⟨ofRecorder c { r with output := some v },
      h.answered ++ [(.output v, .ok none)]⟩ = [v] := by
    simpa [RecorderHistory.outputs] using hnone
  refine ⟨rfl, ?_, ?_, ?_, ?_⟩
  · simp [hk.instrs, RecorderHistory.instrs]
  · simp [hk.privateOutputs, RecorderHistory.privateOutputs]
  · rw [houtputs, if_neg (by simp [ho]), List.head?_cons]
  · exact Nat.le_of_eq (congrArg List.length houtputs)

end Open

theorem Keeps.ask (hk : h.Keeps c r) (q : Request) :
    ∃ r', (h.ask q).Keeps c r' ∧ r'.input = r.input := by
  have hanswer : carryOut q h.session = carryOut q (ofRecorder c r) := by rw [hk.session]
  by_cases hq : q = .finish
  · subst hq
    rw [ask_of_ok (hanswer.trans Session.carryOut_finish)]
    exact ⟨_, hk.finish _, rfl⟩
  · cases ho : r.finished with
    | true =>
      rw [ask_of_error (hanswer.trans (Session.carryOut_of_finished ho hq))]
      exact ⟨r, hk.refused q _, rfl⟩
    | false =>
      cases q with
      | instrs is =>
        rw [ask_of_ok (hanswer.trans (Session.carryOut_instrs ho is))]
        exact ⟨_, hk.recordInstrs ho is, rfl⟩
      | privateOutput v =>
        rw [ask_of_ok (hanswer.trans (Session.carryOut_privateOutput ho v))]
        exact ⟨_, hk.recordPrivate ho v, rfl⟩
      | output v =>
        -- The output is open just as long as no request for one has been granted.
        have houtput := hk.output_of_open ho
        cases hout : h.outputs with
        | nil =>
          rw [hout, List.head?_nil] at houtput
          rw [ask_of_ok (hanswer.trans (Session.carryOut_output ho houtput v))]
          exact ⟨_, hk.setOutput ho hout v, rfl⟩
        | cons w ws =>
          rw [hout, List.head?_cons] at houtput
          rw [ask_of_error (hanswer.trans (Session.carryOut_output_again ho houtput v))]
          exact ⟨r, hk.refused _ _, rfl⟩
      | finish => exact absurd rfl hq

theorem Keeps.toProof (hk : h.Keeps c r) :
    r.toProof = ⟨r.input, h.outputs.head?.getD .empty, h.instrs.flatten, h.privateOutputs⟩ := by
  have houtput : r.output.getD .empty = h.outputs.head?.getD .empty := by
    rw [hk.output]
    split <;> rfl
  rw [Recorder.toProof, houtput, hk.instrs, hk.privateOutputs]

end RecorderHistory

end AlignedLedger
