import AlignedLedger.Bytes.Utf8
import AlignedLedger.CommandLine.Path
import AlignedLedger.Fault

/-! Files and directories by their places, and what it takes to save a file under a path. -/

namespace AlignedLedger.CommandLine

/-- The names on the way from the root. -/
abbrev Place := List String

namespace Place

/-- Where a part leads from a place. The root is above itself. -/
def next (place : Place) (part : String) : Place :=
  if part = ".." then place.dropLast else place ++ [part]

/-- The places on a way, with both its ends. -/
def along (place : Place) : List String → List Place
  | [] => [place]
  | part :: parts => place :: along (place.next part) parts

end Place

inductive Entry where
  | file (content : Bytes)
  | directory
deriving DecidableEq

structure Files where
  /-- The working directory. -/
  here : Place
  entries : List (Place × Entry)

/-- Work on files. What it did before it failed stays done. -/
abbrev OnFiles := EStateM Fault Files

namespace Files

def entry? (fs : Files) (place : Place) : Option Entry :=
  if place.isEmpty then some .directory else fs.entries.lookup place

def put (fs : Files) (place : Place) (e : Entry) : Files :=
  { fs with entries := (fs.entries.filter fun x => x.1 ≠ place) ++ [(place, e)] }

/-- The most bytes of a name. -/
def longestName : Nat := 255

/-- Goes one part on; only a directory that is there has anything below or above it. -/
def enter (fs : Files) (place : Place) (part : String) : Except Fault Place :=
  match fs.entry? place with
  | none => .error .missingFile
  | some (.file _) => .error .notADirectory
  | some .directory =>
    if longestName < (Utf8.encode part).length then .error .nameTooLong else .ok (place.next part)

def origin (fs : Files) (p : Path) : Place := if p.absolute then [] else fs.here

/-- The place that a path leads to. What is there is left open. -/
def resolve (fs : Files) (p : Path) : Except Fault Place :=
  p.parts.foldlM fs.enter (fs.origin p)

/-- What is at a path, if something is. -/
def find? (fs : Files) (p : Path) : Except Fault (Option Entry) :=
  match fs.resolve p with
  | .ok place => .ok (fs.entry? place)
  | .error .nameTooLong => .error .nameTooLong
  | .error _ => .ok none

/-- Makes a directory in one that is there. -/
def makeDirectory (fs : Files) (p : Path) : Except Fault Files := do
  let place ← fs.resolve p
  if (fs.entry? place).isSome then .error .fileExists else pure (fs.put place .directory)

/-- A directory that is there already is as good as a new one. -/
def settleDirectory (p : Path) : OnFiles Unit := do
  let fs ← get
  match fs.makeDirectory p with
  | .ok fs => set fs
  | .error e => match fs.find? p with
    | .ok (some .directory) => pure ()
    | _ => throw e

/-- Makes a directory and those above it that are missing. The parts are given from the last one
on. -/
def settleAll (absolute : Bool) : List String → OnFiles Unit
  | [] => pure ()
  | part :: above => do
    let p : Path := ⟨absolute, (part :: above).reverse⟩
    match (← get).resolve p with
    | .error .missingFile => settleAll absolute above
    | _ => pure ()
    settleDirectory p

/-- Writes a file and makes the directories that it lies in. -/
def save (p : Path) (content : Bytes) : OnFiles Unit := do
  settleAll p.absolute p.parts.reverse.tail
  let fs ← get
  let place ← MonadExcept.ofExcept (fs.resolve p)
  match fs.entry? place with
  | some .directory => throw .isDirectory
  | _ => set (fs.put place (.file content))

end Files

end AlignedLedger.CommandLine
