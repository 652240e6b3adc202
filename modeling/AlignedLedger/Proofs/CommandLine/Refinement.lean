import AlignedLedger.Proofs.Board.Stored
import AlignedLedger.Proofs.CommandLine.Telling

/-! The command line on a state file does what the contract does in memory. What it tells the user comes
after the state is saved, and may still fail then: text of users is taken for text with marks. -/

namespace AlignedLedger.CommandLine

/-- What is asked of a board. -/
inductive Task where
  | init (key : Bytes) (address : Option String) (force : Bool)
  | call (action : Board.Action)

structure Request where
  task : Task
  transcript : Option String

/-- What comes of it in memory. -/
inductive Answer where
  /-- There is a board already, or there is none yet. -/
  | refused
  | failed (e : Fault)
  /-- The next state, and the text of a user that there is to tell. -/
  | done (state : ChargedState) (text : Option String)

namespace Task

def addressOf : Option String → Except Fault Bytes
  | none | some "" => .ok Address.dummy
  | some s => Address.ofText s

/-- The message that goes up or comes down. -/
def textOf (res : Board.CircuitResult) : Board.Action → String
  | .post _ message => message
  | .takeDown _ => res.result.shown

/-- Runs the task on a board in memory. -/
def answer [Memory] (cfg : Config) (board : Option ChargedState) : Task → Answer
  | init key address force =>
    if board.isSome && !force then .refused
    else match (do Board.initialState cfg (.bytes (← addressOf address)) (.bytes key)) with
      | .ok c => .done c.current none
      | .error e => .failed e
  | call action => match board with
    | none => .refused
    | some s => match action.run cfg .standard Address.dummy s with
      | .ok res => .done res.context.current (some (textOf res action))
      | .error e => .failed e

end Task

/-- The board after the answer: only what is done changes it. -/
def Answer.after (board : Option ChargedState) : Answer → Option ChargedState
  | .done s _ => some s
  | _ => board

/-- The board after requests one after another. -/
def boardAfter [Memory] (cfg : Config) (board : Option ChargedState) (requests : List Request) :
    Option ChargedState :=
  requests.foldl (fun board r => (r.task.answer cfg board).after board) board

/-- The command makes the request of the board in the state file under the path. -/
inductive Command.Asks : Command → String → Request → Prop
  | init {secretKey : String} {key : Bytes} (state : String) (address : Option String) (force : Bool)
      (hk : Hex.decodeMarked? secretKey = some key) (hl : key.length = 32) :
      Asks (.init state (some secretKey) address force) state ⟨.init key address force, none⟩
  | post {secretKey : String} {key : Bytes} (state message : String) (transcript : Option String)
      (hk : Hex.decodeMarked? secretKey = some key) (hl : key.length = 32) :
      Asks (.post state secretKey message transcript) state ⟨.call (.post key message), transcript⟩
  | takeDown {secretKey : String} {key : Bytes} (state : String) (transcript : Option String)
      (hk : Hex.decodeMarked? secretKey = some key) (hl : key.length = 32) :
      Asks (.takeDown state secretKey transcript) state ⟨.call (.takeDown key), transcript⟩

/-- The file under the path is the board in memory, or none if there is no board. It can be written. -/
structure Holds [Memory] (env : Environment) (path : String) (board : Option ChargedState) (files : Files) : Prop where
  found : files.find? (.ofText path) = .ok (board.map fun s => .file s.encode)
  stored : ∀ s ∈ board, Board.Stored (.ofEnvironment env) s
  writable : files.CanSave (.ofText path)

/-- What a command does to the files complies with the answer of the contract in memory. -/
def Complies [Memory] (env : Environment) (path : String) (r : Request) (files : Files)
    (result : EStateM.Result Halt Files String) : Answer → Prop
  | .refused => result = .error .usage files
  | .failed _ => Comes result (· = files) False
  | .done s text => ∃ gs, Files.save (.ofText path) s.encode files = .ok () gs ∧
      Comes result (fun fs => Holds env path (some s) fs ∧ fs.here = files.here)
        ((∀ q ∈ r.transcript, gs.CanSave (.ofText q)) ∧ ∀ m ∈ text, Markup.Renders m)

section Commands

variable {cfg : Config} {env : Environment} {random : Bytes} {files gs : Files} {path : String}
variable {board : Option ChargedState} {s : ChargedState}

theorem loadState_of_missing [Memory] (hf : files.find? (.ofText path) = .ok none) :
    loadState cfg path files = .error .usage files := by
  unfold loadState
  rw [bind_run_of_ok (get_run files), hf, unguarded_ok, bind_run_of_ok (pure_run _ files)]
  rfl

/-- What is read out of the file is the state that was saved. -/
theorem Holds.loadState [Memory] (h : Holds env path (some s) files) :
    loadState (.ofEnvironment env) path files = .ok s files := by
  have hf : files.find? (.ofText path) = .ok (some (.file s.encode)) := h.found
  unfold CommandLine.loadState
  rw [bind_run_of_ok (get_run files), hf, unguarded_ok, bind_run_of_ok (pure_run _ files)]
  change guarded (ChargedState.decode (.ofEnvironment env) s.encode) files = _
  rw [(h.stored s rfl).decode_encode, guarded_ok, pure_run]

theorem Holds.of_found [Memory] (hf : files.find? (.ofText path) = .ok (some (.file s.encode)))
    (hs : Board.Stored (.ofEnvironment env) s) : Holds env path (some s) files where
  found := hf
  stored := by simpa using hs
  writable := Files.canSave_of_file hf

theorem saveState_of_save (hs : Files.save (.ofText path) s.encode files = .ok () gs) :
    saveState path s files = .ok () gs := by
  unfold saveState save onFiles
  rw [hs]

section Call

variable [Memory]

variable {sk : Bytes} {circuit : CallContext → Except Fault Board.CircuitResult}
variable {title : String} {transcript : Option String}
variable {more : Board.CircuitResult → List (String × String)}

theorem callCircuit_of_failed (h : Holds env path (some s) files) {e : Fault}
    (he : circuit (.make s Address.dummy (.bytes sk) .standard) = .error e) :
    callCircuit (.ofEnvironment env) path sk circuit files = .error (haltOver e) files := by
  unfold callCircuit
  rw [bind_run_of_ok h.loadState, he, guarded_error]
  exact bind_run_of_error (throw_run _ files)

theorem callCircuit_of_done (h : Holds env path (some s) files) {res : Board.CircuitResult}
    (hr : circuit (.make s Address.dummy (.bytes sk) .standard) = .ok res)
    (hs : Files.save (.ofText path) res.context.current.encode files = .ok () gs) :
    callCircuit (.ofEnvironment env) path sk circuit files = .ok res gs := by
  unfold callCircuit
  rw [bind_run_of_ok h.loadState, hr, guarded_ok, pure_bind, bind_run_of_ok (saveState_of_save hs)]
  rfl

/-- Once the circuit is done, the state file holds what came of it, and what is left is to tell of it. -/
theorem Comes.call (h : Holds env path (some s) files)
    (hq : ∀ q ∈ transcript, files.target (.ofText q) ≠ files.target (.ofText path))
    {res : Board.CircuitResult} (hr : circuit (.make s Address.dummy (.bytes sk) .standard) = .ok res)
    (hstored : Board.Stored (.ofEnvironment env) res.context.current) {v : Board.View}
    (hv : Board.View.ofTree (.ofEnvironment env) res.context.tree = .ok v)
    (hs : Files.save (.ofText path) res.context.current.encode files = .ok () gs) :
    Comes ((do
        let r ← callCircuit (.ofEnvironment env) path sk circuit
        CommandLine.writeTranscript transcript r.proof
        let v ← CommandLine.unguarded (Board.View.ofTree (.ofEnvironment env) r.context.tree)
        CommandLine.summary title v (more r) : Work String) files)
      (fun fs => Holds env path (some res.context.current) fs ∧ fs.here = files.here)
      ((∀ q ∈ transcript, gs.CanSave (.ofText q)) ∧
        (∀ m ∈ v.message, Markup.Renders m) ∧ ∀ r ∈ more res, Markup.Renders r.2) := by
  have hkept := Files.KeptBut.of_save hs
  have hapart : ∀ q ∈ transcript, gs.target (.ofText q) ≠ gs.target (.ofText path) := by
    intro q hm
    rw [hkept.target, hkept.target]
    exact hq q hm
  rw [bind_run_of_ok (callCircuit_of_done h hr hs)]
  refine (tell (Files.find?_save hs) hapart hv).imp fun fs hfs => ?_
  exact ⟨.of_found hfs.1 hstored, hfs.2.trans hkept.here⟩

/-- A command that calls a circuit complies with it, given what there is to tell of it. -/
theorem complies_call {action : Board.Action} (h : Holds env path board files)
    (hq : ∀ q ∈ transcript, files.target (.ofText q) ≠ files.target (.ofText path))
    (hcircuit : ∀ s, circuit (.make s Address.dummy (.bytes sk) .standard) =
      action.run (.ofEnvironment env) .standard Address.dummy s)
    (htold : ∀ s res, Board.Stored (.ofEnvironment env) s →
      action.run (.ofEnvironment env) .standard Address.dummy s = .ok res →
      Board.Stored (.ofEnvironment env) res.context.current ∧
        ∃ v, Board.View.ofTree (.ofEnvironment env) res.context.tree = .ok v ∧
          ((∀ m ∈ v.message, Markup.Renders m) ∧ (∀ r ∈ more res, Markup.Renders r.2) ↔
            Markup.Renders (Task.textOf res action))) :
    Complies env path ⟨.call action, transcript⟩ files
      ((do
        let r ← callCircuit (.ofEnvironment env) path sk circuit
        writeTranscript transcript r.proof
        let v ← unguarded (Board.View.ofTree (.ofEnvironment env) r.context.tree)
        summary title v (more r) : Work String) files)
      ((Task.call action).answer (.ofEnvironment env) board) := by
  cases board with
  | none => exact bind_run_of_error (bind_run_of_error (loadState_of_missing h.found))
  | some s =>
    cases hr : action.run (.ofEnvironment env) .standard Address.dummy s with
    | error e =>
      have hanswer : (Task.call action).answer (.ofEnvironment env) (some s) = .failed e := by
        simp only [Task.answer, hr]
      rw [hanswer, bind_run_of_error (callCircuit_of_failed h ((hcircuit s).trans hr))]
      exact ⟨rfl, not_false, isFault_haltOver e⟩
    | ok res =>
      have hanswer : (Task.call action).answer (.ofEnvironment env) (some s) =
          .done res.context.current (some (Task.textOf res action)) := by
        simp only [Task.answer, hr]
      obtain ⟨hstored, v, hv, htext⟩ := htold s res (h.stored s rfl) hr
      obtain ⟨gs, hs⟩ := h.writable.save res.context.current.encode
      rw [hanswer]
      refine ⟨gs, hs, (Comes.call h hq ((hcircuit s).trans hr) hstored hv hs).congr ?_⟩
      exact and_congr_right fun _ => htext.trans (by simp)

end Call

section Init

variable {key : Bytes} {address : Option String} {force : Bool} {before : Option Entry}

theorem Task.addressOf_some {a : String} (ha : a ≠ "") : addressOf (some a) = Address.ofText a := by
  unfold addressOf
  split
  · next h => cases h
  · next h => exact absurd (Option.some.inj h) ha
  · next h => rw [Option.some.inj h]

variable [Memory]

/-- Where no file is in its way, the command makes a board, saves it and shows it. -/
theorem runInit_eq {secretKey : String} (hk : Hex.decodeMarked? secretKey = some key)
    (hl : key.length = 32) (hf : files.find? (.ofText path) = .ok before)
    (hb : ¬ (before.isSome && !force) = true) :
    Command.runInit cfg random path (some secretKey) address force files = (do
      let address ← unguarded (Task.addressOf address)
      let c ← guarded (Board.initialState cfg (.bytes address) (.bytes key))
      saveState path c.current
      let v ← unguarded (Board.View.ofTree cfg c.tree)
      summary "Board created" v [] : Work String) files := by
  rw [Command.runInit, bind_run_of_ok (get_run files), hf, unguarded_ok, pure_bind, if_neg hb]
  dsimp only
  rw [parseSecretKey_of_length hk hl, pure_bind]
  split
  · rfl
  · rfl
  · next a ha =>
    rw [Task.addressOf_some (fun h => ha (by rw [h]))]
    rfl

theorem complies_init (random : Bytes) {secretKey : String} (h : Holds env path board files)
    (hk : Hex.decodeMarked? secretKey = some key) (hl : key.length = 32) :
    Complies env path ⟨.init key address force, none⟩ files
      (Command.runInit (.ofEnvironment env) random path (some secretKey) address force files)
      ((Task.init key address force).answer (.ofEnvironment env) board) := by
  have hsome : (board.map fun s => Entry.file s.encode).isSome = board.isSome := Option.isSome_map
  by_cases hb : (board.isSome && !force) = true
  · have hanswer : (Task.init key address force).answer (.ofEnvironment env) board = .refused := if_pos hb
    rw [hanswer, Command.runInit, bind_run_of_ok (get_run files), h.found, unguarded_ok, pure_bind, hsome,
      if_pos hb]
    exact bind_run_of_error (throw_run _ files)
  · rw [runInit_eq hk hl h.found (by rwa [hsome]), Task.answer, if_neg hb]
    cases ha : Task.addressOf address with
    | error e => exact ⟨rfl, not_false, trivial⟩
    | ok a =>
      rw [unguarded_ok, pure_bind, ok_bind]
      cases hc : Board.initialState (.ofEnvironment env) (.bytes a) (.bytes key) with
      | error e => exact ⟨rfl, not_false, isFault_haltOver e⟩
      | ok c =>
        obtain ⟨hstored, hfresh⟩ := Board.stored_of_initialState hc
        obtain ⟨gs, hs⟩ := h.writable.save c.current.encode
        have hv := hfresh.ofTree hstored.holdsBoard
        rw [guarded_ok, pure_bind, bind_run_of_ok (saveState_of_save hs), hv, unguarded_ok, pure_bind]
        have hholds : Holds env path (some c.current) gs := .of_found (Files.find?_save hs) hstored
        -- The board is fresh: there is no message on it that could fail to be shown.
        refine ⟨gs, hs, (Comes.summary _ _ _ ⟨hholds, (Files.KeptBut.of_save hs).here⟩).congr ?_⟩
        simp [Board.fresh]

end Init

/-- Each command complies with the contract in memory. -/
theorem Command.Asks.complies [Memory] {c : Command} {r : Request} (hc : c.Asks path r) (random : Bytes)
    (h : Holds env path board files)
    (hq : ∀ q ∈ r.transcript, files.target (.ofText q) ≠ files.target (.ofText path)) :
    Complies env path r files (c.run (.ofEnvironment env) random files)
      (r.task.answer (.ofEnvironment env) board) := by
  have hcost : ∀ n : Nat, Markup.Renders n.repr := fun n =>
    Markup.renders_of_not_mem (bracket_not_mem_toString n)
  cases hc with
  | init _ address force hk hl => exact complies_init random h hk hl
  | post _ message _ hk hl =>
    rw [Command.run, Command.runPost, parseSecretKey_of_length hk hl, pure_bind]
    refine complies_call h hq (fun s => rfl) fun s res hs hr => ?_
    obtain ⟨hstored, v, hv, hm⟩ := hs.post hr
    exact ⟨hstored, v, hv, by simp [hm, hcost, Task.textOf]⟩
  | takeDown _ _ hk hl =>
    rw [Command.run, Command.runTakeDown, parseSecretKey_of_length hk hl, pure_bind]
    refine complies_call h hq (fun s => rfl) fun s res hs hr => ?_
    obtain ⟨hstored, v, hv, hm⟩ := hs.takeDown hr
    exact ⟨hstored, v, hv, by simp [hm, hcost, Task.textOf]⟩

end Commands

/-- One command line, with the random bytes that a new key would be made of. -/
structure Line where
  random : Bytes
  args : List String

namespace Line

def run [Memory] (env : Environment) (files : Files) (l : Line) : Result :=
  CommandLine.run env l.random files l.args

/-- The line makes the request of the board in the file under the path, and its transcript goes elsewhere. -/
structure Asks (files : Files) (path : String) (l : Line) (r : Request) : Prop where
  command : ∃ c, Command.ofArguments l.args = .ok c ∧ c.Asks path r
  apart : ∀ q ∈ r.transcript, files.target (.ofText q) ≠ files.target (.ofText path)

/-- The line is one that makes a board. -/
def IsInit (l : Line) : Prop :=
  ∃ state secretKey address force,
    Command.ofArguments l.args = .ok (.init state secretKey address force)

end Line

def filesAfter [Memory] (env : Environment) (files : Files) (lines : List Line) : Files :=
  lines.foldl (fun fs l => (l.run env fs).files) files

/-- One of the lines makes a board. -/
def InitSucceeds [Memory] (env : Environment) : Files → List Line → Prop
  | _, [] => False
  | files, l :: ls =>
    l.IsInit ∧ (l.run env files).exitCode = 0 ∨ InitSucceeds env (l.run env files).files ls

/-- The exit code is that of a success if all is fine. -/
def Result.ExitsIf (r : Result) (fine : Prop) : Prop := r.exitCode = 0 ∧ fine ∨ r.exitCode = 1 ∧ ¬ fine

/-- What the user gets bears out the answer of the contract in memory. Of what is done the file holds the
state, also where the transcript cannot be written or where what a user wrote cannot be shown. -/
def BearsOut (path : String) (r : Request) (files : Files) (result : Result) : Answer → Prop
  | .refused => result.exitCode = 2 ∧ result.files = files
  | .failed _ => result.exitCode = 1 ∧ result.files = files
  | .done s text => ∃ gs, Files.save (.ofText path) s.encode files = .ok () gs ∧
      result.files.find? (.ofText path) = .ok (some (.file s.encode)) ∧
      result.ExitsIf ((∀ q ∈ r.transcript, gs.CanSave (.ofText q)) ∧ ∀ m ∈ text, Markup.Renders m)

section Lines

variable {env : Environment} {random : Bytes} {files gs : Files} {path : String}
variable {board : Option ChargedState} {s : ChargedState} {args : List String} {c : Command}
variable {l : Line} {r : Request} {lines : List Line} {requests : List Request}

theorem Line.Asks.of_here (h : l.Asks files path r) (hhere : gs.here = files.here) : l.Asks gs path r where
  command := h.command
  apart := by simpa only [Files.target_of_here hhere] using h.apart

theorem Result.files_ofHalt (files : Files) (h : Halt) : (Result.ofHalt env files h).files = files := by
  cases h with
  | reported f =>
    dsimp only [ofHalt]
    split <;> rfl
  | _ => rfl

theorem Result.exitCode_ofHalt {h : Halt} (hh : h.IsFault) : (Result.ofHalt env files h).exitCode = 1 := by
  cases h with
  | reported f =>
    dsimp only [ofHalt]
    split <;> rfl
  | raised f => rfl
  | _ => exact hh.elim

theorem Comes.run [Memory] {kept : Files → Prop} {fine : Prop} (ha : Command.ofArguments args = .ok c)
    (h : Comes (c.run (.ofEnvironment env) random files) kept fine) :
    kept (CommandLine.run env random files args).files ∧
      (CommandLine.run env random files args).ExitsIf fine := by
  unfold CommandLine.run
  rw [ha]
  dsimp only
  cases hc : c.run (.ofEnvironment env) random files with
  | ok output fs =>
    rw [hc] at h
    exact ⟨h.1, .inl ⟨rfl, h.2⟩⟩
  | error halt fs =>
    rw [hc] at h
    refine ⟨?_, .inr ⟨Result.exitCode_ofHalt h.2.2, h.2.1⟩⟩
    dsimp only
    rw [Result.files_ofHalt]
    exact h.1

/-- One line bears the contract out, and leaves the board that the contract leaves. -/
theorem Line.Asks.step [Memory] (hl : l.Asks files path r) (h : Holds env path board files) :
    BearsOut path r files (l.run env files) (r.task.answer (.ofEnvironment env) board) ∧
      Holds env path ((r.task.answer (.ofEnvironment env) board).after board) (l.run env files).files ∧
      (l.run env files).files.here = files.here := by
  obtain ⟨c, ha, hask⟩ := hl.command
  have hcomplies := hask.complies l.random h hl.apart
  cases hanswer : r.task.answer (.ofEnvironment env) board with
  | refused =>
    rw [hanswer] at hcomplies
    have hstop : c.run (.ofEnvironment env) l.random files = .error .usage files := hcomplies
    have hrun : l.run env files = .ofHalt env files .usage := by
      unfold Line.run CommandLine.run
      simp only [ha, hstop]
    rw [hrun]
    exact ⟨⟨rfl, rfl⟩, h, rfl⟩
  | failed e =>
    rw [hanswer] at hcomplies
    obtain ⟨hfiles, hexit⟩ := hcomplies.run ha
    have hsame : (l.run env files).files = files := hfiles
    have hexits : (l.run env files).ExitsIf False := hexit
    have hcode : (l.run env files).exitCode = 1 := by simpa [Result.ExitsIf] using hexits
    rw [hsame]
    exact ⟨⟨hcode, hsame⟩, h, rfl⟩
  | done s text =>
    rw [hanswer] at hcomplies
    obtain ⟨gs, hs, hcomes⟩ := hcomplies
    obtain ⟨⟨hholds, hhere⟩, hexit⟩ := hcomes.run ha
    exact ⟨⟨gs, hs, hholds.found, hexit⟩, hholds, hhere⟩

/-- The line of a board holds its fields in the order of their names. -/
theorem exists_line_eq (v : Board.View) :
    ∃ fields shown, v.toJson = .object fields ∧ shown.Perm fields ∧
      shown.Pairwise (fun f g => f.1 < g.1) ∧ v.line = (Json.object shown).line := by
  have hnames : ["message", "owner", "sequence", "state"].Pairwise (· < ·) := by decide +kernel
  refine ⟨_, _, rfl, ?_, ?_, rfl⟩
  · exact (List.perm_append_singleton _ [_, _, _]).trans (((List.Perm.swap _ _ []).cons _).cons _)
  · rw [← List.pairwise_map]
    exact hnames

variable [Memory]

/-- Of a fresh board there is no text of a user to tell. -/
theorem Task.eq_none_of_init {cfg : Config} {key : Bytes} {address text : Option String} {force : Bool}
    (h : (Task.init key address force).answer cfg board = .done s text) : text = none := by
  unfold answer at h
  dsimp only at h
  split at h
  · cases h
  · split at h <;> cases h
    rfl

/-- The first board there is comes from a line that makes one. -/
theorem Line.Asks.after_eq_none (hl : l.Asks files path r) (h : Holds env path board files) :
    (r.task.answer (.ofEnvironment env) board).after board = none ↔
      board = none ∧ ¬ (l.IsInit ∧ (l.run env files).exitCode = 0) := by
  have hbears := (hl.step h).1
  cases hanswer : r.task.answer (.ofEnvironment env) board with
  | refused =>
    rw [hanswer] at hbears
    have hcode : (l.run env files).exitCode = 2 := hbears.1
    simp [Answer.after, hcode]
  | failed e =>
    rw [hanswer] at hbears
    have hcode : (l.run env files).exitCode = 1 := hbears.1
    simp [Answer.after, hcode]
  | done s text =>
    rw [hanswer] at hbears
    obtain ⟨gs, -, -, hexit⟩ := hbears
    have hinit : board = none → l.IsInit ∧ (l.run env files).exitCode = 0 := by
      rintro rfl
      -- Calls are refused as long as there is no board.
      obtain ⟨c, ha, hask⟩ := hl.command
      cases hask with
      | init _ _ _ hk hl =>
        obtain rfl := Task.eq_none_of_init hanswer
        exact ⟨⟨_, _, _, _, ha⟩, by simpa [Result.ExitsIf] using hexit⟩
      | post => cases hanswer
      | takeDown => cases hanswer
    simpa [Answer.after] using hinit

/-- A run of lines leaves the board that the contract leaves. -/
theorem holds_run (hlines : List.Forall₂ (Line.Asks files path) lines requests)
    (h : Holds env path board files) :
    Holds env path (boardAfter (.ofEnvironment env) board requests) (filesAfter env files lines) ∧
      (filesAfter env files lines).here = files.here ∧
      (boardAfter (.ofEnvironment env) board requests = none ↔
        board = none ∧ ¬ InitSucceeds env files lines) := by
  induction lines generalizing files board requests with
  | nil =>
    cases hlines
    exact ⟨h, rfl, by simp [boardAfter, InitSucceeds]⟩
  | cons l ls ih =>
    obtain ⟨r, rs, hl, hls, rfl⟩ := List.forall₂_cons_left_iff.mp hlines
    obtain ⟨-, hnext, hhere⟩ := hl.step h
    obtain ⟨hholds, hplace, hnone⟩ := ih (hls.imp fun _ _ hask => hask.of_here hhere) hnext
    refine ⟨hholds, hplace.trans hhere, hnone.trans ?_⟩
    rw [hl.after_eq_none h, InitSucceeds, not_or, and_assoc]

theorem Holds.view (h : Holds env path (some s) files) :
    ∃ v, Board.View.ofTree (.ofEnvironment env) s.tree = .ok v ∧
      ∀ random args, Command.ofArguments args = .ok (.view path true) →
        run env random files args = ⟨files, 0, v.line ++ "\n", [], none⟩ := by
  obtain ⟨v, hv, -⟩ := (h.stored s rfl).exists_view
  refine ⟨v, hv, fun random args ha => ?_⟩
  have hview : (Command.view path true).run (.ofEnvironment env) random files =
      .ok (v.line ++ "\n") files := by
    rw [Command.run, Command.runView, bind_run_of_ok h.loadState, hv, guarded_ok, pure_bind, if_pos rfl]
    rfl
  unfold run
  simp only [ha, hview]

/-- The state file refines the board in memory, over every run of command lines that ask for one. -/
theorem commands_refine (env : Environment) {path : String} {files : Files} {lines : List Line}
    {requests : List Request} (hmissing : files.find? (.ofText path) = .ok none)
    (hwritable : files.CanSave (.ofText path))
    (hlines : List.Forall₂ (Line.Asks files path) lines requests) :
    let after := filesAfter env files lines
    let board := boardAfter (.ofEnvironment env) none requests
    after.find? (.ofText path) = .ok (board.map fun s => .file s.encode) ∧
      (after.find? (.ofText path) = .ok none ↔ ¬ InitSucceeds env files lines) ∧
      (∀ s ∈ board, ∃ v fields shown, Board.View.ofTree (.ofEnvironment env) s.tree = .ok v ∧
        v.toJson = .object fields ∧ shown.Perm fields ∧ shown.Pairwise (fun f g => f.1 < g.1) ∧
        ∀ random args, Command.ofArguments args = .ok (.view path true) →
          run env random after args = ⟨after, 0, (Json.object shown).line ++ "\n", [], none⟩) ∧
      ∀ (l : Line) (r : Request), l.Asks files path r →
        BearsOut path r after (l.run env after) (r.task.answer (.ofEnvironment env) board) := by
  intro after board
  have hstart : Holds env path none files := ⟨hmissing, by simp, hwritable⟩
  obtain ⟨hholds, hhere, hnone⟩ := holds_run hlines hstart
  refine ⟨hholds.found, ?absent, ?shown, ?next⟩
  case absent =>
    rw [hholds.found]
    simpa using hnone
  case shown =>
    intro s hs
    have hholds : Holds env path (some s) after := by rwa [← Option.mem_def.mp hs]
    obtain ⟨v, hv, hrun⟩ := hholds.view
    obtain ⟨fields, shown, hfields, hperm, hsorted, hline⟩ := exists_line_eq v
    refine ⟨v, fields, shown, hv, hfields, hperm, hsorted, fun random args ha => ?_⟩
    rw [← hline]
    exact hrun random args ha
  case next =>
    intro l r hask
    exact ((hask.of_here hhere).step hholds).1

end Lines

/-- A root with nothing in it. -/
def noFiles : Files := ⟨[], []⟩

def noEnvironment : Environment := fun _ => none

def keyOfOnes : Bytes := List.replicate 32 1

def initLine : Line where
  random := []
  args := ["init", "--state", "board", "-k",
    "0101010101010101010101010101010101010101010101010101010101010101"]

def initRequest : Request := ⟨.init keyOfOnes none false, none⟩

def postLine (message : String) : Line where
  random := []
  args := ["post", "-s", "board", "-m", message, "-k",
    "0101010101010101010101010101010101010101010101010101010101010101"]

def postRequest (message : String) : Request := ⟨.call (.post keyOfOnes message), none⟩

theorem asks_initLine : initLine.Asks noFiles "board" initRequest where
  command := ⟨.init "board" _ none false, rfl, .init _ _ _ (by decide +kernel) (by decide)⟩
  apart := by simp [initRequest]

theorem asks_postLine (message : String) :
    (postLine message).Asks noFiles "board" (postRequest message) where
  command := ⟨.post "board" _ message none, rfl, .post _ _ _ (by decide +kernel) (by decide)⟩
  apart := by simp [postRequest]

theorem refine_of_init_and_post :
    let after := filesAfter noEnvironment noFiles [initLine]
    let board := boardAfter (.ofEnvironment noEnvironment) none [initRequest]
    (∃ s, board = some s ∧ after.find? (.ofText "board") = .ok (some (.file s.encode))) ∧
      BearsOut "board" (postRequest "hi") after ((postLine "hi").run noEnvironment after)
        ((postRequest "hi").task.answer (.ofEnvironment noEnvironment) board) := by
  intro after board
  have hmissing : noFiles.find? (.ofText "board") = .ok none := rfl
  obtain ⟨hfound, -, -, hnext⟩ := commands_refine noEnvironment hmissing ⟨_, rfl⟩
    (.cons asks_initLine .nil)
  obtain ⟨s, hs⟩ : ∃ s, boardAfter (.ofEnvironment noEnvironment) none [initRequest] = some s :=
    Option.isSome_iff_exists.mp (by decide +kernel)
  refine ⟨⟨s, hs, ?_⟩, hnext _ _ (asks_postLine "hi")⟩
  rw [hs] at hfound
  exact hfound

/-- The contract takes any text for a message. A closing mark in it that closes nothing stops the command. -/
theorem done_without_success :
    ¬ ∀ (env : Environment) (path : String) (files : Files) (lines : List Line) (requests : List Request),
      files.find? (.ofText path) = .ok none → files.CanSave (.ofText path) →
      List.Forall₂ (Line.Asks files path) lines requests →
      ∀ (l : Line) (r : Request) s text, l.Asks files path r → r.transcript = none →
        r.task.answer (.ofEnvironment env) (boardAfter (.ofEnvironment env) none requests) = .done s text →
        (l.run env (filesAfter env files lines)).exitCode = 0 := by
  intro h
  have hdone : (((postRequest "[/b]").task.answer (.ofEnvironment noEnvironment)
      (boardAfter (.ofEnvironment noEnvironment) none [initRequest])).after none).isSome := by
    decide +kernel
  have hcode : ((postLine "[/b]").run noEnvironment
      (filesAfter noEnvironment noFiles [initLine])).exitCode = 1 := by
    decide +kernel
  cases ha : (postRequest "[/b]").task.answer (.ofEnvironment noEnvironment)
      (boardAfter (.ofEnvironment noEnvironment) none [initRequest]) with
  | done s text =>
    have hzero := h noEnvironment "board" noFiles [initLine] [initRequest] rfl ⟨_, rfl⟩
      (.cons asks_initLine .nil) (postLine "[/b]") _ s text (asks_postLine "[/b]") rfl ha
    cases hcode.symm.trans hzero
  | refused => simp [ha, Answer.after] at hdone
  | failed e => simp [ha, Answer.after] at hdone

end AlignedLedger.CommandLine
