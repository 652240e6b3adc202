import AlignedLedger.Datum.Equality
import AlignedLedger.Tree.Container

/-! Keys that are no aligned values and values that are no trees, as callers may hand them in. Only a
map can be asked for any key that could stand in a dict; all else comes to a fault, and which one
depends on the container. -/

namespace AlignedLedger.Tree

/-- What comes of a key that is no aligned value. -/
def foreignKeyFault (use : ContainerUse) (t : Tree) (key : Datum) : Fault :=
  match t, use with
  | map _, .push => .unsupported use t.tag
  | map _, _ => if key.isKey then .missingAttribute else .wrongType
  | array _, .index => .missingAttribute
  | array _, .insert => .missingAttribute
  | _, _ => .unsupported use t.tag

/-- Looks for a key that is no aligned value; there is never an entry under it. -/
def getForeign? (t : Tree) (key : Datum) : Except Fault (Option Tree) :=
  match t with
  | map _ => if key.isKey then .ok none else .error .wrongType
  | _ => .error .missingAttribute

/-- Whether there is an entry under a key. An array holds no keys, and nothing else can be asked. -/
def contains (t : Tree) (key : AlignedValue) : Except Fault Bool :=
  match t with
  | map entries => .ok (Entries.get? key entries).isSome
  | array _ => .ok false
  | _ => .error .wrongType

def containsForeign (t : Tree) (key : Datum) : Except Fault Bool :=
  match t with
  | map _ => if key.isKey then .ok false else .error .wrongType
  | array _ => .ok false
  | _ => .error .wrongType

/-- What comes of appending something that is no tree: an array that cannot be told about. -/
def pushForeignFault (cfg : Config) (t : Tree) : Fault :=
  match t with
  | array items =>
    if items.length < cfg.maxArrayLength then .missingAttribute else .arrayTooLong cfg.maxArrayLength
  | t => .unsupported .push t.tag

variable [Memory]

/-- What comes of putting something that is no tree under a key. -/
def insertForeignFault (t : Tree) (key : AlignedValue) : Fault :=
  match t with
  | array items => match position key items.length with
    | .ok _ => .missingAttribute
    | .error e => e
  | map _ => match key.requestBinary with
    | .ok () => .missingAttribute
    | .error e => e
  | t => .unsupported .insert t.tag

end AlignedLedger.Tree
