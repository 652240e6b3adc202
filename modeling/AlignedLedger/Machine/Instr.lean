import AlignedLedger.Tree.Container

/-! The instructions that programs consist of, and programs as they are handed in. -/

namespace AlignedLedger

/-- A step of a path: a key that is written in it, or one that is popped off the operand stack. -/
inductive PathKey where
  | literal (key : AlignedValue)
  | stack
deriving DecidableEq

/-- The flag `persist` marks values meant for storage and paths that the call has touched before. It
only bears on the cost. -/
inductive Instr where
  | push (persist : Bool) (value : Tree)
  /-- Copies the entry that lies `n` below the top. -/
  | dup (n : Int)
  /-- Replaces a container by what a path leads to, and with `pushPath` leaves all containers and
  keys on the way below it. -/
  | idx (persist pushPath : Bool) (path : List PathKey)
  /-- Reads the cell on top; with a result given, it has to be that one. -/
  | popeq (persist : Bool) (result : Option AlignedValue)
  /-- Puts the value on top back through `n` containers and keys. -/
  | ins (persist : Bool) (n : Int)
  /-- Adds to the number in the cell on top. -/
  | addi (immediate : Int)
deriving DecidableEq

/-- An entry of a program as callers hand it in: an instruction, or one with an operand of another
kind than it should have, or something that is no instruction. -/
inductive Step where
  | instr (i : Instr)
  /-- A push of something that is no tree. -/
  | pushForeign (persist : Bool) (value : Datum)
  /-- A path with keys that are no aligned values. -/
  | idxForeign (persist pushPath : Bool) (path : List (PathKey ⊕ Datum))
  /-- A read with a result that is no aligned value. -/
  | popeqForeign (persist : Bool) (result : Datum)
  | foreign (value : Datum)

abbrev Program := List Step

namespace Program

def ofInstrs (is : List Instr) : Program := is.map .instr

/-- The instructions among the entries. -/
def instrs (p : Program) : List Instr :=
  p.filterMap fun s => match s with
    | .instr i => some i
    | _ => none

end Program

namespace PathKey

def toJson : PathKey → Json
  | literal k => .object [("tag", .text "value"), ("value", k.toJson)]
  | stack => .object [("tag", .text "stack")]

end PathKey

namespace Instr

def resultJson : Option AlignedValue → Json
  | some v => v.toJson
  | none => .null

def toJson : Instr → Json
  | push persist t =>
    .object [("op", .text "push"), ("persist", .bool persist), ("value", t.toJson)]
  | dup n => .object [("op", .text "dup"), ("n", .int n)]
  | idx persist pushPath path =>
    .object [("op", .text "idx"), ("persist", .bool persist), ("push_path", .bool pushPath),
      ("path", .array (path.map PathKey.toJson))]
  | popeq persist result =>
    .object [("op", .text "popeq"), ("persist", .bool persist), ("result", resultJson result)]
  | ins persist n => .object [("op", .text "ins"), ("persist", .bool persist), ("n", .int n)]
  | addi n => .object [("op", .text "addi"), ("immediate", .int n)]

end Instr

end AlignedLedger
