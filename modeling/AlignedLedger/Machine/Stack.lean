import AlignedLedger.Machine.Instr

/-! The operand stack, top first, and what each instruction does to it. -/

namespace AlignedLedger

namespace AlignedValue

/-- The same slot with a larger number, if it still fits. -/
def addNat (v : AlignedValue) (n : Nat) : Except Fault AlignedValue := do
  let m ← v.toNat
  ofSegments [LittleEndian.ofNat (m + n)] v.alignment

end AlignedValue

namespace Tree

/-- Goes down from a tree, one key a level. -/
def walk (t : Tree) : List AlignedValue → Except Fault Tree
  | [] => .ok t
  | k :: ks => do
    let u ← t.index k
    u.walk ks

/-- What is below a key on a walk that may end in an empty place: a map gives null for a key it does
not have. -/
def childOrNull (t : Tree) (key : AlignedValue) : Except Fault Tree :=
  match t with
  | map entries => .ok ((Entries.get? key entries).getD null)
  | t => t.index key

/-- A place to put something in: null gives way to a map without entries. -/
def orNewMap : Tree → Tree
  | null => newMap
  | t => t

end Tree

abbrev Stack := List Tree

namespace Stack

def push (cfg : Config) (t : Tree) (s : Stack) : Except Fault Stack :=
  if s.length < cfg.maxStackDepth then .ok (t :: s) else .error (.stackOverflow cfg.maxStackDepth)

/-- A computation that needs `n` entries runs only if they are there. -/
def require (use : StackUse) (n : Nat) (s : Stack) : Except Fault Unit :=
  if s.length < n then .error (.stackUnderflow use n s.length) else .ok ()

def pop (use : StackUse) : Stack → Except Fault (Tree × Stack)
  | [] => .error (.stackUnderflow use 1 0)
  | t :: s => .ok (t, s)

def popCell (use : StackUse) (s : Stack) : Except Fault (AlignedValue × Stack) := do
  let (t, s) ← pop use s
  let v ← t.asCell
  pure (v, s)

def dup (cfg : Config) (n : Int) (s : Stack) : Except Fault Stack :=
  match n with
  | .ofNat i => match s[i]? with
    | some t => push cfg t s
    | none => .error (.dupDepth n s.length)
  | .negSucc _ => .error (.dupDepth n s.length)

/-- The keys of a path. Stack steps pop theirs in the order of the path. -/
def pathKeys : List PathKey → Stack → Except Fault (List AlignedValue × Stack)
  | [], s => .ok ([], s)
  | .literal k :: path, s => do
    let (ks, s) ← pathKeys path s
    pure (k :: ks, s)
  | .stack :: path, s => do
    let (k, s) ← popCell .idxKey s
    let (ks, s) ← pathKeys path s
    pure (k :: ks, s)

variable [Memory]

/-- A walk that leaves each container and key on the stack, and makes containers on its way where
there is nothing yet. -/
def recordedWalk (cfg : Config) : List AlignedValue → Tree → Stack → Except Fault (Tree × Stack)
  | [], t, s => .ok (t, s)
  | k :: ks, t, s => do
    let s ← push cfg t.orNewMap s
    let key ← Tree.makeCell cfg k
    let s ← push cfg key s
    let child ← t.orNewMap.childOrNull k
    recordedWalk cfg ks child s

def idx (cfg : Config) (pushPath : Bool) (path : List PathKey) (s : Stack) : Except Fault Stack := do
  if cfg.maxPathLength < path.length then throw (.pathTooLong path.length cfg.maxPathLength)
  let (keys, s) ← pathKeys path s
  let (t, s) ← pop .idx s
  let (u, s) ← if pushPath then recordedWalk cfg keys t s else (t.walk keys).map fun u => (u, s)
  push cfg u s

def popeq (result : Option AlignedValue) (s : Stack) : Except Fault (AlignedValue × Stack) := do
  let (v, s) ← popCell .popeq s
  match result with
  | some expected => if expected = v then pure (v, s) else throw (.popeqMismatch expected v)
  | none => pure (v, s)

/-- The value to put back, and the containers and keys below it. -/
def insOperands (n : Int) (s : Stack) : Except Fault (Tree × Stack) :=
  match n with
  | .ofNat n => do
    require .ins (1 + 2 * n) s
    pop .ins s
  | .negSucc _ => .error .negativeInsCount

/-- Puts a value under the key on top into the container below that key, and goes on with what comes
of it. -/
def rebuild (cfg : Config) : Nat → Tree → Stack → Except Fault (Tree × Stack)
  | 0, v, s => .ok (v, s)
  | n + 1, v, s => do
    let (key, s) ← popCell .ins s
    let (container, s) ← pop .ins s
    let v ← container.insert cfg key v
    rebuild cfg n v s

def ins (cfg : Config) (n : Nat) (value : Tree) (s : Stack) : Except Fault Stack := do
  let (v, s) ← rebuild cfg n value s
  push cfg v s

def addi (cfg : Config) (immediate : Int) (s : Stack) : Except Fault Stack :=
  match immediate with
  | .ofNat n => do
    let (v, s) ← popCell .addi s
    match v.addNat n with
    | .ok w => do
      let t ← Tree.makeCell cfg w
      push cfg t s
    | .error cause => throw (.addiRejected cause)
  | .negSucc _ => .error .negativeImmediate

end Stack

end AlignedLedger
