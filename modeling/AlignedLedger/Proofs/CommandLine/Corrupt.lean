import AlignedLedger.CommandLine.Commands
import AlignedLedger.Proofs.Tree.Corrupt

/-! Commands on a state file that does not decode. They stop with exit code 1 and leave the files as they
were; the user is told the fault unless reading stumbled. -/

namespace AlignedLedger.CommandLine

variable {cfg : Config} {random content : Bytes} {files : Files} {path : String} {e : Fault} {c : Command}

@[simp] theorem unguarded_ok {α : Type} (x : α) : unguarded (.ok x) = pure x := rfl

@[simp] theorem guarded_ok {α : Type} (x : α) : guarded (.ok x) = pure x := rfl

/-- The stop that a fault leads to where reports are told. -/
def haltOver (e : Fault) : Halt := if e.told.kind.isReported then .reported e else .raised e.told

@[simp] theorem guarded_error {α : Type} (e : Fault) :
    (guarded (.error e) : Work α) = throw (haltOver e) := rfl

theorem haltOver_of_isReported (h : e.IsReported) : haltOver e = .reported e := if_pos h

theorem haltOver_of_not_isReported (h : ¬ e.IsReported) : haltOver e = .raised e.told := if_neg h

/-- The command begins with reading the state file under the path, once a secret key is one. -/
inductive Command.Loads : Command → String → Prop
  | view (state : String) (json : Bool) : Loads (.view state json) state
  | post {secretKey : String} {sk : Bytes} (state message : String) (transcript : Option String)
      (hk : Hex.decodeMarked? secretKey = some sk) (hl : sk.length = 32) :
      Loads (.post state secretKey message transcript) state
  | takeDown {secretKey : String} {sk : Bytes} (state : String) (transcript : Option String)
      (hk : Hex.decodeMarked? secretKey = some sk) (hl : sk.length = 32) :
      Loads (.takeDown state secretKey transcript) state

theorem parseSecretKey_of_length {s : String} {sk : Bytes} (hk : Hex.decodeMarked? s = some sk)
    (hl : sk.length = 32) : parseSecretKey s = pure sk := by
  simp [parseSecretKey, hk, hl]

section Stops

variable [Memory]
variable (hf : files.find? (.ofText path) = .ok (some (.file content)))
  (hd : ChargedState.decode cfg content = .error e)

include hf hd

theorem loadState_of_error : loadState cfg path files = .error (haltOver e) files := by
  unfold loadState
  rw [bind_run_of_ok (get_run files), hf, unguarded_ok, bind_run_of_ok (pure_run _ files)]
  change guarded (ChargedState.decode cfg content) files = _
  rw [hd, guarded_error, throw_run]

theorem callCircuit_of_error (sk : Bytes) (circuit : CallContext → Except Fault Board.CircuitResult) :
    callCircuit cfg path sk circuit files = .error (haltOver e) files :=
  bind_run_of_error (loadState_of_error hf hd)

theorem Command.run_of_error (hc : c.Loads path) :
    c.run cfg random files = .error (haltOver e) files := by
  cases hc with
  | view state json => exact bind_run_of_error (loadState_of_error hf hd)
  | post state message transcript hk hl =>
    rw [run, runPost, parseSecretKey_of_length hk hl, bind_run_of_ok (pure_run _ files)]
    exact bind_run_of_error (callCircuit_of_error hf hd _ _)
  | takeDown state transcript hk hl =>
    rw [run, runTakeDown, parseSecretKey_of_length hk hl, bind_run_of_ok (pure_run _ files)]
    exact bind_run_of_error (callCircuit_of_error hf hd _ _)

end Stops

/-- A command stopped over a fault and left the files as they were. -/
structure Result.StopsOver (r : Result) (e : Fault) (files : Files) : Prop where
  exitCode : r.exitCode = 1
  files : r.files = files
  output : r.output = ""
  told : e.IsReported → ∀ line, Markup.render (errorLine e) = .ok line →
    r.errors = [line] ∧ r.raised = none
  /-- The message itself may hold marks of style that do not match. -/
  mismarked : e.IsReported → ∀ f, Markup.render (errorLine e) = .error f →
    r.errors = [] ∧ r.raised = some f
  raised : ¬ e.IsReported → r.errors = [] ∧ r.raised = some e.told

theorem Result.ofHalt_stopsOver (env : Environment) (files : Files) (e : Fault) :
    (Result.ofHalt env files (haltOver e)).StopsOver e files := by
  by_cases hr : e.IsReported
  · rw [haltOver_of_isReported hr]
    cases hm : Markup.render (errorLine e) with
    | ok line =>
      constructor <;> simp [ofHalt, hm, hr]
    | error f =>
      constructor <;> simp [ofHalt, hm, hr]
  · rw [haltOver_of_not_isReported hr]
    constructor <;> simp [ofHalt, hr]

section

variable [Memory]

/-- Corrupt data are reported exactly where reading does not stumble over them, whatever the data are and so
also for the bytes that the reader makes data of. A command on a state file that does not decode stops in
either case, but the fault gets through to the caller where it does. -/
theorem corrupt_state (cfg : Config) (b : Bytes) :
    (∀ d, ((∃ t, Tree.ofDatum cfg d = .ok t) ∨ ∃ e, Tree.ofDatum cfg d = .error e ∧ e.IsReported) ↔
      ¬ Tree.StumblesOver cfg d) ∧
    (∀ d, ((∃ s, ChargedState.ofDatum cfg d = .ok s) ∨
        ∃ e, ChargedState.ofDatum cfg d = .error e ∧ e.IsReported) ↔
      ¬ ChargedState.StumblesOver cfg d) ∧
    (((∃ t, Tree.decode cfg b = .ok t) ∨ ∃ e, Tree.decode cfg b = .error e ∧ e.IsReported) ↔
      ∀ item, Cbor.decode? b = some item → ¬ Tree.StumblesOver cfg item.toDatum) ∧
    (((∃ s, ChargedState.decode cfg b = .ok s) ∨
        ∃ e, ChargedState.decode cfg b = .error e ∧ e.IsReported) ↔
      ∀ item, Cbor.decode? b = some item → ¬ ChargedState.StumblesOver cfg item.toDatum) ∧
    ∀ env random files args c path e, Config.ofEnvironment env = cfg →
      ChargedState.decode cfg b = .error e → Command.ofArguments args = .ok c → c.Loads path →
      files.find? (.ofText path) = .ok (some (.file b)) →
      (run env random files args).StopsOver e files := by
  refine ⟨?treeData, ?chargedData, ?tree, ?charged, ?commands⟩
  case treeData =>
    intro d
    rw [← not_unreported_iff, Tree.unreported_iff]
  case chargedData =>
    intro d
    rw [← not_unreported_iff, ChargedState.unreported_iff]
  case tree =>
    rw [← not_unreported_iff, Tree.unreported_decode]
    simp only [not_exists, not_and]
  case charged =>
    rw [← not_unreported_iff, ChargedState.unreported_decode]
    simp only [not_exists, not_and]
  case commands =>
    rintro env random files args c path e rfl hd ha hc hf
    have h : run env random files args = .ofHalt env files (haltOver e) := by
      rw [run, ha]
      simp only [Command.run_of_error hf hd hc]
    rw [h]
    exact Result.ofHalt_stopsOver env files e

end

/-- A cell with a text in the place of a segment. -/
def textAsSegment : Bytes :=
  [0x82, 0x01, 0x82, 0x81, 0x61, 0x61, 0x81, 0x82, 0x65, 0x62, 0x79, 0x74, 0x65, 0x73, 0x01]

/-- A working directory with one state file, which holds this cell. -/
def filesWithText : Files where
  here := []
  entries := [(["board"], .file ([0x84, 0x44, 0x4c, 0x56, 0x53, 0x54, 0x01] ++ textAsSegment ++ [0x0a]))]

theorem view_of_text :
    (run (fun _ => none) [] filesWithText ["show", "--state", "board"]).StopsOver .wrongType
      filesWithText :=
  (corrupt_state (.ofEnvironment fun _ => none) _).2.2.2.2 (fun _ => none) [] filesWithText
    ["show", "--state", "board"] (.view "board" false) "board" .wrongType rfl rfl rfl
    (.view "board" false) rfl

theorem text_not_reported :
    ¬ ∀ (cfg : Config) (b : Bytes), (∃ t, Tree.decode cfg b = .ok t) ∨
      ∃ e, Tree.decode cfg b = .error e ∧ e.IsReported := by
  intro h
  have hd : Tree.decode (.ofEnvironment fun _ => none) textAsSegment = .error .wrongType := rfl
  rcases h (.ofEnvironment fun _ => none) textAsSegment with ⟨t, ht⟩ | ⟨e, he, hr⟩
  · cases hd.symm.trans ht
  · cases hd.symm.trans he
    exact Fault.not_isReported_of_kind rfl hr

end AlignedLedger.CommandLine
