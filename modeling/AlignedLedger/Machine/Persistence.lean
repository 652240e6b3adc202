import AlignedLedger.Machine.Instr
import AlignedLedger.Tree.Persistence

/-! The stored form of instructions: a list of the name and the operands. -/

namespace AlignedLedger

namespace PathKey

def toItem : PathKey → Cbor.Item
  | literal k => .array [.text "value", k.toItem]
  | stack => .array [.text "stack"]

variable [Memory]

def ofDatum (d : Datum) : Except Fault PathKey :=
  match d with
  | .list [.text "stack"] => .ok stack
  | .list [.text "value", k] => (AlignedValue.ofDatum k).map literal
  | _ => .error (.badPathKey d)

end PathKey

namespace Instr

def resultItem : Option AlignedValue → Cbor.Item
  | some v => v.toItem
  | none => .null

def toItem : Instr → Cbor.Item
  | push persist t => .array [.text "push", .bool persist, t.toItem]
  | dup n => .array [.text "dup", .int n]
  | idx persist pushPath path =>
    .array [.text "idx", .bool persist, .bool pushPath, .array (path.map PathKey.toItem)]
  | popeq persist result => .array [.text "popeq", .bool persist, resultItem result]
  | ins persist n => .array [.text "ins", .bool persist, .int n]
  | addi n => .array [.text "addi", .int n]

/-- A program in stored form. -/
def listItem (is : List Instr) : Cbor.Item := .array (is.map toItem)

def operand (args : List Datum) (i : Nat) : Except Fault Datum :=
  match args[i]? with
  | some d => .ok d
  | none => .error .wrongType

variable [Memory]

/-- The operands that the instruction of this name takes; what follows them is not looked at. -/
def ofOperands (cfg : Config) (name : String) (args : List Datum) : Except Fault Instr :=
  match name with
  | "push" => do
    let persist ← operand args 0
    let t ← operand args 1 >>= Tree.ofDatum cfg
    pure (push persist.truth t)
  | "dup" => do
    let n ← operand args 0 >>= Datum.toInt
    pure (dup n)
  | "idx" => do
    let persist ← operand args 0
    let pushPath ← operand args 1
    let steps ← operand args 2 >>= Datum.elements
    let path ← steps.mapM PathKey.ofDatum
    pure (idx persist.truth pushPath.truth path)
  | "popeq" => do
    let d ← operand args 1
    let result ← if d.isNull then pure none else (AlignedValue.ofDatum d).map some
    let persist ← operand args 0
    pure (popeq persist.truth result)
  | "ins" => do
    let persist ← operand args 0
    let n ← operand args 1 >>= Datum.toInt
    pure (ins persist.truth n)
  | "addi" => do
    let n ← operand args 0 >>= Datum.toInt
    pure (addi n)
  | _ => .error (.unknownInstructionName (.text name))

/-- An operand of a wrong kind makes the instruction malformed; other faults stay what they are. -/
def ofDatum (cfg : Config) (d : Datum) : Except Fault Instr :=
  match d with
  | .list (.text name :: args) => match ofOperands cfg name args with
    | .error .wrongType => .error (.malformedInstruction (.text name) d)
    | r => r
  | .list (name :: _) => .error (.unknownInstructionName name)
  | _ => .error (.badInstruction d)

end Instr

end AlignedLedger
