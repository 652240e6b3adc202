import AlignedLedger.Board.Contract
import AlignedLedger.CommandLine.Arguments
import AlignedLedger.CommandLine.Files
import AlignedLedger.Markup.Render
import AlignedLedger.Version

/-! What the commands do: they keep a bulletin board in a state file. A command that fails leaves the
file as it was. -/

namespace AlignedLedger.CommandLine

/-- A command at work on files. What it wrote before it stopped stays written. -/
abbrev Work := EStateM Halt Files

/-- Faults with a report are told to the user. -/
def guarded {α : Type} : Except Fault α → Work α
  | .ok x => pure x
  | .error e => throw (if e.told.kind.isReported then .reported e else .raised e.told)

def unguarded {α : Type} : Except Fault α → Work α
  | .ok x => pure x
  | .error e => throw (.raised e)

def onFiles {α : Type} (work : OnFiles α) : Work α := fun files =>
  match work files with
  | .ok x files => .ok x files
  | .error e files => .error (.raised e) files

def parseSecretKey (s : String) : Work Bytes :=
  match Hex.decodeMarked? s with
  | some b => if b.length = 32 then pure b else throw .usage
  | none => throw .usage

variable [Memory]

def loadState (cfg : Config) (path : String) : Work ChargedState := do
  let files ← get
  match ← unguarded (files.find? (.ofText path)) with
  | some (.file content) => guarded (ChargedState.decode cfg content)
  | some .directory => throw (.raised .isDirectory)
  | none => throw .usage

def save (path : String) (content : Bytes) : Work Unit := onFiles (Files.save (.ofText path) content)

def saveState (path : String) (s : ChargedState) : Work Unit := save path s.encode

def writeTranscript (path : Option String) (p : ProofRecord) : Work Unit :=
  match path with
  | none => pure ()
  | some path => save path (Utf8.encode (p.toJson.indented 2 ++ "\n"))

def messageText : Option String → String
  | some s => s
  | none => "-"

/-- The fields of a board, one a line, and what there is to add, as a terminal shows them. -/
def summary (title : String) (v : Board.View) (more : List (String × String)) : Work String := do
  let rows := [("state", v.state.name), ("message", messageText v.message),
    ("sequence", toString v.sequence), ("owner", Hex.marked v.owner)] ++ more
  let lines ← rows.mapM fun r => do
    let shown ← unguarded (Markup.render r.2)
    pure ("  " ++ r.1 ++ ": " ++ shown ++ "\n")
  pure (String.join ((title ++ "\n") :: lines))

/-- Runs a circuit on the board in a state file and saves what comes of it. -/
def callCircuit (cfg : Config) (state : String) (secretKey : Bytes)
    (circuit : CallContext → Except Fault Board.CircuitResult) : Work Board.CircuitResult := do
  let loaded ← loadState cfg state
  let r ← guarded (circuit (.make loaded Address.dummy (.bytes secretKey) .standard))
  saveState state r.context.current
  pure r

namespace Command

/-- Makes a vacant board. Without a secret key one is made of the given random bytes and shown. -/
def runInit (cfg : Config) (random : Bytes) (state : String) (secretKey address : Option String)
    (force : Bool) : Work String := do
  let files ← get
  let before ← unguarded (files.find? (.ofText state))
  if before.isSome && !force then throw .usage
  let sk ← match secretKey with
    | some s => parseSecretKey s
    | none => pure random
  let address ← match address with
    | none | some "" => pure Address.dummy
    | some s => unguarded (Address.ofText s)
  let c ← guarded (Board.initialState cfg (.bytes address) (.bytes sk))
  saveState state c.current
  let v ← unguarded (Board.View.ofTree cfg c.tree)
  summary "Board created" v (if secretKey.isNone then [("secret_key", Hex.marked sk)] else [])

def runPost (cfg : Config) (state secretKey message : String) (transcript : Option String) :
    Work String := do
  let sk ← parseSecretKey secretKey
  let r ← callCircuit cfg state sk fun c => Board.post cfg Board.secretKeyWitnesses c (.text message)
  writeTranscript transcript r.proof
  let v ← unguarded (Board.View.ofTree cfg r.context.tree)
  summary "Posted" v [("cost", toString r.gas.used)]

def runTakeDown (cfg : Config) (state secretKey : String) (transcript : Option String) :
    Work String := do
  let sk ← parseSecretKey secretKey
  let r ← callCircuit cfg state sk (Board.takeDown cfg Board.secretKeyWitnesses)
  writeTranscript transcript r.proof
  let v ← unguarded (Board.View.ofTree cfg r.context.tree)
  summary "Taken down" v [("former message", r.result.shown), ("cost", toString r.gas.used)]

def runView (cfg : Config) (state : String) (json : Bool) : Work String := do
  let loaded ← loadState cfg state
  let v ← guarded (Board.View.ofTree cfg loaded.tree)
  if json then pure (v.line ++ "\n") else summary "Board" v []

def runPublicKey (secretKey : String) (sequence : Nat) : Work String := do
  let sk ← parseSecretKey secretKey
  let key ← guarded (numberToBytes 32 (.int sequence) >>= fun seq =>
    Board.publicKeyOf (.bytes sk) (.bytes seq))
  pure (Hex.marked key ++ "\n")

def run (cfg : Config) (random : Bytes) : Command → Work String
  | init state secretKey address force => runInit cfg random state secretKey address force
  | post state secretKey message transcript => runPost cfg state secretKey message transcript
  | takeDown state secretKey transcript => runTakeDown cfg state secretKey transcript
  | view state json => runView cfg state json
  | publicKey secretKey sequence => runPublicKey secretKey sequence

end Command

/-- What the user sees of a command, and the files it leaves. -/
structure Result where
  files : Files
  exitCode : Nat
  output : String
  errors : List String
  raised : Option Fault

/-- The line that tells a fault, with marks of style. -/
def errorLine (f : Fault) : String := "[bold red]error[/] (" ++ f.kind.code ++ "): " ++ f.message

def helpText : String :=
  "Usage: " ++ Version.programName ++ " [--version] [--log-level LEVEL] COMMAND ...\n" ++
    "Commands: " ++ String.intercalate ", " Command.names ++ "\n"

def Result.ofHalt (env : Environment) (files : Files) : Halt → Result
  | .usage => ⟨files, 2, "", [helpText], none⟩
  | .version => ⟨files, 0, Version.banner env ++ "\n", [], none⟩
  | .help => ⟨files, 0, helpText, [], none⟩
  | .reported f => match Markup.render (errorLine f) with
    | .ok line => ⟨files, 1, "", [line], none⟩
    | .error e => ⟨files, 1, "", [], some e⟩
  | .raised f => ⟨files, 1, "", [], some f⟩

/-- Runs a command line on files. -/
def run (env : Environment) (random : Bytes) (files : Files) (args : List String) : Result :=
  match Command.ofArguments args with
  | .error h => .ofHalt env files h
  | .ok c => match c.run (.ofEnvironment env) random files with
    | .ok output files => ⟨files, 0, output, [], none⟩
    | .error h files => .ofHalt env files h

/-- The programs by the names under which they are installed. -/
def entryPoints : List (String × String) := [("run", "ledger_vm.cli.run:main")]

def entryPoint (name : String) : Except Fault String :=
  match entryPoints.lookup name with
  | some target => .ok target
  | none => .error .missingKey

end AlignedLedger.CommandLine
