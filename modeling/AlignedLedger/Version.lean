import AlignedLedger.Tree.Persistence

/-! The version of the program and of the state files it writes. -/

namespace AlignedLedger.Version

def programName : String := "ledger-vm"

def builtIn : String := "0.1.0"

/-- The version that the environment gives, unless it is empty or missing. -/
def current (env : Environment) : String :=
  match env "VERSION" with
  | some v => if v.isEmpty then builtIn else v
  | none => builtIn

def banner (env : Environment) : String :=
  programName ++ " " ++ current env ++ s!" (state format v{ChargedState.formatVersion})"

end AlignedLedger.Version
