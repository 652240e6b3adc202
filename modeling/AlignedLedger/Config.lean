import AlignedLedger.Json
import AlignedLedger.Text.Numeral

/-! The caps on trees and programs, the cost limit and the logging level, as the environment sets
them. -/

namespace AlignedLedger

/-- The variables that are set, by their names without the program's own mark. -/
abbrev Environment := String → Option String

/-- A number that the environment may set, within bounds. -/
structure Setting where
  name : String
  fallback : Nat
  least : Nat
  most : Nat

namespace Setting

/-- A number out of bounds counts as the nearest bound, text that is no number as not there. -/
def read (s : Setting) (env : Environment) : Nat :=
  match (env s.name).bind Text.literal? with
  | none => s.fallback
  | some v => if v < s.least then s.least else if s.most < v then s.most else v.toNat

def maxStackDepth : Setting := ⟨"MAX_STACK_DEPTH", 256, 8, 65536⟩

def maxPathLength : Setting := ⟨"MAX_PATH_LENGTH", 32, 1, 1024⟩

def maxArrayLength : Setting := ⟨"MAX_ARRAY_LEN", 16, 1, 1024⟩

def maxCellBytes : Setting := ⟨"MAX_CELL_BYTES", 65536, 64, 16777216⟩

def costLimit : Setting := ⟨"COST_LIMIT", 0, 0, 1 <<< 62⟩

end Setting

namespace LogLevel

def names : List String :=
  ["CRITICAL", "FATAL", "ERROR", "WARN", "WARNING", "INFO", "DEBUG", "NOTSET"]

/-- The capital letter, for the letters whose capital is one of ASCII. -/
def capital (c : Char) : Char :=
  if c = 'ı' then 'I' else if c = 'ſ' then 'S' else c.toUpper

def capitals (s : String) : String := s.map capital

/-- The level named by the text, in letters of any case. -/
def ofText? (s : String) : Option String :=
  if names.contains (capitals s) then some (capitals s) else none

end LogLevel

structure Config where
  maxStackDepth : Nat
  maxPathLength : Nat
  maxArrayLength : Nat
  maxCellBytes : Nat
  /-- Zero means no limit. -/
  costLimit : Nat
  logLevel : String
deriving DecidableEq

namespace Config

def ofEnvironment (env : Environment) : Config where
  maxStackDepth := Setting.maxStackDepth.read env
  maxPathLength := Setting.maxPathLength.read env
  maxArrayLength := Setting.maxArrayLength.read env
  maxCellBytes := Setting.maxCellBytes.read env
  costLimit := Setting.costLimit.read env
  logLevel := ((env "LOG_LEVEL").bind fun s => LogLevel.ofText? (Text.trim s)).getD "WARNING"

def limit? (c : Config) : Option Nat := if c.costLimit = 0 then none else some c.costLimit

def toJson (c : Config) : Json :=
  .object [("max_stack_depth", .int c.maxStackDepth), ("max_path_length", .int c.maxPathLength),
    ("max_array_len", .int c.maxArrayLength), ("max_cell_bytes", .int c.maxCellBytes),
    ("cost_limit", .int c.costLimit), ("log_level", .text c.logLevel)]

end Config

end AlignedLedger
