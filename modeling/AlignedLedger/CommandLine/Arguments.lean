import AlignedLedger.Address
import AlignedLedger.Config
import AlignedLedger.Text.LenientInteger

/-! The words of a command line as a command with its options. -/

namespace AlignedLedger.CommandLine

/-- Why a command stops before its end. -/
inductive Halt where
  /-- The words make no command, or name files or keys that cannot be used. -/
  | usage
  | version
  | help
  /-- A fault that is told to the user. -/
  | reported (f : Fault)
  /-- A fault that nothing takes care of. -/
  | raised (f : Fault)

structure OptionSpec where
  long : String
  short : Option Char
  takesValue : Bool

/-- Options in the order in which they were given, by their long names; flags have an empty value. -/
abbrev Given := List (String × String)

namespace Given

/-- The last value given. -/
def value? (g : Given) (long : String) : Option String := (g.reverse.lookup long)

def has (g : Given) (long : String) : Bool := (g.value? long).isSome

def required (g : Given) (long : String) : Except Halt String :=
  match g.value? long with
  | some v => .ok v
  | none => .error .usage

end Given

/-- The part of a word in front of its first equals sign, and what follows it. -/
def splitAssignment (cs : List Char) : List Char × Option (List Char) :=
  let front := cs.takeWhile (· != '=')
  match cs.drop front.length with
  | _ :: value => (front, some value)
  | [] => (front, none)

/-- The value of an option: the one that is attached to it, or else the next word. -/
def valueOf (attached : Option (List Char)) (rest : List String) :
    Except Halt (String × List String) :=
  match attached, rest with
  | some v, _ => .ok (String.ofList v, rest)
  | none, v :: rest => .ok (v, rest)
  | none, [] => .error .usage

/-- A word of short options. One that takes a value takes the rest of the word. -/
def shortOptions (specs : List OptionSpec) : List Char → List String →
    Except Halt (Given × List String)
  | [], rest => .ok ([], rest)
  | c :: cs, rest => match specs.find? fun o => o.short = some c with
    | none => .error .usage
    | some o =>
      if o.takesValue then do
        let (v, rest) ← valueOf (if cs.isEmpty then none else some cs) rest
        pure ([(o.long, v)], rest)
      else do
        let (more, rest) ← shortOptions specs cs rest
        pure ((o.long, "") :: more, rest)

/-- A word that begins with a dash, with the words that follow it. -/
def optionWord (specs : List OptionSpec) (word : List Char) (rest : List String) :
    Except Halt (Given × List String) :=
  let (front, attached) := splitAssignment word
  match specs.find? fun o => o.long.toList = front with
  | some o =>
    if o.takesValue then do
      let (v, rest) ← valueOf attached rest
      pure ([(o.long, v)], rest)
    else if attached.isSome then .error .usage
    else .ok ([(o.long, "")], rest)
  | none => match word with
    | '-' :: '-' :: _ => .error .usage
    | _ => shortOptions specs word.tail rest

/-- Splits words into options and the rest. After the first word that is no option, either all others
are left as they are, or options may still follow. A word uses up at most itself and the next one, so
the number of words bounds the steps. -/
def splitOptions (specs : List OptionSpec) (mixed : Bool) : Nat → List String →
    Except Halt (Given × List String)
  | 0, words => .ok ([], words)
  | _, [] => .ok ([], [])
  | fuel + 1, word :: rest =>
    if word = "--" then .ok ([], rest)
    else match word.toList with
      | '-' :: _ :: _ => do
        let (given, rest) ← optionWord specs word.toList rest
        let (more, others) ← splitOptions specs mixed fuel rest
        pure (given ++ more, others)
      | _ =>
        if mixed then do
          let (given, others) ← splitOptions specs mixed fuel rest
          pure (given, word :: others)
        else .ok ([], word :: rest)

def helpSpec : OptionSpec := ⟨"--help", none, false⟩

def versionSpec : OptionSpec := ⟨"--version", some 'V', false⟩

def logLevelSpec : OptionSpec := ⟨"--log-level", none, true⟩

def stateSpec : OptionSpec := ⟨"--state", some 's', true⟩

def secretKeySpec : OptionSpec := ⟨"--secret-key", some 'k', true⟩

def addressSpec : OptionSpec := ⟨"--address", none, true⟩

def forceSpec : OptionSpec := ⟨"--force", none, false⟩

def messageSpec : OptionSpec := ⟨"--message", some 'm', true⟩

def transcriptSpec : OptionSpec := ⟨"--transcript", none, true⟩

def jsonSpec : OptionSpec := ⟨"--json", none, false⟩

def sequenceSpec : OptionSpec := ⟨"--sequence", none, true⟩

inductive Command where
  | init (state : String) (secretKey address : Option String) (force : Bool)
  | post (state secretKey message : String) (transcript : Option String)
  | takeDown (state secretKey : String) (transcript : Option String)
  | view (state : String) (json : Bool)
  | publicKey (secretKey : String) (sequence : Nat)

namespace Command

/-- No path holds the character that ends one. -/
def checkPaths (given : Given) : Except Halt Unit :=
  let paths := [stateSpec, transcriptSpec].filterMap fun o => given.value? o.long
  if paths.any fun p => p.toList.contains '\x00' then .error (.raised .badValue) else .ok ()

/-- The options of a command that takes no other words. -/
def options (specs : List OptionSpec) (words : List String) : Except Halt Given := do
  let (given, others) ← splitOptions (helpSpec :: specs) true words.length words
  if given.has helpSpec.long then throw .help
  checkPaths given
  if others.isEmpty then pure given else throw .usage

def natural (s : String) : Except Halt Nat :=
  match Text.lenientInteger? s with
  | some (.ofNat n) => .ok n
  | _ => .error .usage

def ofWords (name : String) (words : List String) : Except Halt Command :=
  match name with
  | "init" => do
    let given ← options [stateSpec, secretKeySpec, addressSpec, forceSpec] words
    let state ← given.required stateSpec.long
    pure (init state (given.value? secretKeySpec.long) (given.value? addressSpec.long)
      (given.has forceSpec.long))
  | "post" => do
    let given ← options [stateSpec, secretKeySpec, messageSpec, transcriptSpec] words
    let state ← given.required stateSpec.long
    let secretKey ← given.required secretKeySpec.long
    let message ← given.required messageSpec.long
    pure (post state secretKey message (given.value? transcriptSpec.long))
  | "take-down" => do
    let given ← options [stateSpec, secretKeySpec, transcriptSpec] words
    let state ← given.required stateSpec.long
    let secretKey ← given.required secretKeySpec.long
    pure (takeDown state secretKey (given.value? transcriptSpec.long))
  | "show" => do
    let given ← options [stateSpec, jsonSpec] words
    let state ← given.required stateSpec.long
    pure (view state (given.has jsonSpec.long))
  | "public-key" => do
    let given ← options [secretKeySpec, sequenceSpec] words
    let secretKey ← given.required secretKeySpec.long
    let sequence ← given.required sequenceSpec.long >>= natural
    pure (publicKey secretKey sequence)
  | _ => .error .usage

def names : List String := ["init", "post", "take-down", "show", "public-key"]

/-- The level of the option, unless it is empty or missing, has to be one there is. -/
def checkLogLevel (given : Given) : Except Halt Unit :=
  match given.value? logLevelSpec.long with
  | none | some "" => .ok ()
  | some level => if (LogLevel.ofText? level).isSome then .ok () else .error (.raised .badValue)

/-- The general options, and the words behind them. The first that asks for the version or for help is
seen to at once. -/
def generalOptions (words : List String) : Except Halt (Given × List String) := do
  let (given, others) ← splitOptions [helpSpec, versionSpec, logLevelSpec] false words.length words
  match given.find? fun g => g.1 = versionSpec.long || g.1 = helpSpec.long with
  | some (name, _) => throw (if name = versionSpec.long then .version else .help)
  | none => pure (given, others)

/-- The general options come first and are seen to before the command's own. What stands in the place of
a command and is none may be general options again, but leads to no command. -/
def ofArguments (args : List String) : Except Halt Command := do
  let (given, others) ← generalOptions args
  match others with
  | [] => throw .usage
  | name :: words => do
    if !names.contains name then
      let _ ← generalOptions others
      throw .usage
    checkLogLevel given
    ofWords name words

/-- The paths of the files that a command may look at. -/
def paths : Command → List String
  | init state .. => [state]
  | post state _ _ transcript => state :: transcript.toList
  | takeDown state _ transcript => state :: transcript.toList
  | view state _ => [state]
  | publicKey .. => []

end Command

end AlignedLedger.CommandLine
