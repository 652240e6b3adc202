import AlignedLedger.CommandLine.Commands

/-! The command line: reads the environment and the files that the command may look at, runs the
command, and writes what it changed. -/

open AlignedLedger CommandLine

/-- The variables that the program looks at. -/
def variableNames : List String :=
  ["MAX_STACK_DEPTH", "MAX_PATH_LENGTH", "MAX_ARRAY_LEN", "MAX_CELL_BYTES", "COST_LIMIT", "LOG_LEVEL",
    "VERSION"]

def readEnvironment : IO Environment := do
  let mut pairs : List (String × String) := []
  for name in variableNames do
    if let some value ← IO.getEnv ("LEDGER_VM_" ++ name) then pairs := (name, value) :: pairs
  let found := pairs
  pure fun name => found.lookup name

def placeText (place : Place) : String := "/" ++ String.intercalate "/" place

def isDirectory (place : Place) : IO Bool := do
  try
    discard (IO.FS.realPath (placeText place ++ "/."))
    pure true
  catch _ => pure false

def readEntry (place : Place) : IO (Option (Place × Entry)) := do
  if ← isDirectory place then return some (place, .directory)
  try
    let content ← IO.FS.readBinFile (placeText place)
    pure (some (place, .file content.data.toList))
  catch _ => pure none

/-- What is on the way to some paths. -/
def readFiles (paths : List String) : IO Files := do
  let here := (Path.ofText (toString (← IO.FS.realPath "."))).parts
  let placesOf (path : String) : List Place :=
    let p := Path.ofText path
    Place.along (if p.absolute then [] else here) p.parts
  let places := Place.along [] here ++ paths.flatMap placesOf
  pure ⟨here, ← places.eraseDups.filterMapM readEntry⟩

def writeEntry (place : Place) : Entry → IO Unit
  | .file content => IO.FS.writeBinFile (placeText place) ⟨content.toArray⟩
  | .directory => IO.FS.createDir (placeText place)

def pathsOf (args : List String) : List String :=
  match Command.ofArguments args with
  | .ok c => c.paths
  | .error _ => []

def main (args : List String) : IO UInt32 := do
  let env ← readEnvironment
  let before ← readFiles (pathsOf args)
  let random ← IO.getRandomBytes 32
  let result := CommandLine.run env random.data.toList before args
  for (place, entry) in result.files.entries do
    if before.entry? place != some entry then writeEntry place entry
  IO.print result.output
  for line in result.errors do
    IO.eprintln line
  if let some fault := result.raised then IO.eprintln ("error: " ++ fault.message)
  pure (UInt32.ofNat result.exitCode)
