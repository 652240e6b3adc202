import AlignedLedger.Machine.Stack
import AlignedLedger.Tree.Foreign

/-! Steps with operands of another kind than they should have. They are paid for like others and do
what they can of their work, but none comes to an end: what it would leave cannot go on record. -/

namespace AlignedLedger.Stack

/-- The keys of a path, where those written in it may be no aligned values. -/
def looseKeys : List (PathKey ⊕ Datum) → Stack → Except Fault (List (AlignedValue ⊕ Datum) × Stack)
  | [], s => .ok ([], s)
  | .inr d :: path, s => do
    let (ks, s) ← looseKeys path s
    pure (.inr d :: ks, s)
  | .inl (.literal k) :: path, s => do
    let (ks, s) ← looseKeys path s
    pure (.inl k :: ks, s)
  | .inl .stack :: path, s => do
    let (k, s) ← popCell .idxKey s
    let (ks, s) ← looseKeys path s
    pure (.inl k :: ks, s)

variable [Memory]

/-- A walk along such keys, one level at a time. A key that goes on the stack has to go into a cell. -/
def looseWalk (cfg : Config) (pushPath : Bool) :
    List (AlignedValue ⊕ Datum) → Tree → Stack → Except Fault (Tree × Stack)
  | [], t, s => .ok (t, s)
  | .inr d :: _, t, s => do
    if pushPath then
      let _ ← push cfg t.orNewMap s
      throw (.cellContent d)
    else throw (t.foreignKeyFault .index d)
  | .inl k :: ks, t, s => do
    let (t, s) ← if pushPath then recordedWalk cfg [k] t s else (t.index k).map fun u => (u, s)
    looseWalk cfg pushPath ks t s

def looseIdx (cfg : Config) (pushPath : Bool) (path : List (PathKey ⊕ Datum)) (s : Stack) :
    Except Fault Stack := do
  if cfg.maxPathLength < path.length then throw (.pathTooLong path.length cfg.maxPathLength)
  let (keys, s) ← looseKeys path s
  let (t, s) ← pop .idx s
  let (t, s) ← looseWalk cfg pushPath keys t s
  push cfg t s

/-- What stops a step that is paid for. -/
def foreignFault (cfg : Config) (op : Step) (s : Stack) : Fault :=
  match op with
  | .pushForeign _ d => .cannotPush d
  | .idxForeign _ pushPath path => match looseIdx cfg pushPath path s with
    | .error e => e
    | .ok _ => .missingAttribute
  | .popeqForeign _ _ => match popCell .popeq s with
    | .error e => e
    | .ok _ => .missingAttribute
  | _ => .missingAttribute

end AlignedLedger.Stack
