import AlignedLedger.Datum

/-! Equality and order of loosely typed data. Numbers of all kinds compare by value, byte strings of
both kinds by content; a list never equals a tuple, and dicts compare without regard to order. -/

namespace AlignedLedger.Datum

def sameNumber (a b : Datum) : Bool :=
  match a.number?, b.number? with
  | some x, some y => x.equal y
  | _, _ => false

mutual

def same : Datum → Datum → Bool
  | null, null => true
  | text s, text t => s = t
  | broken s, broken t => s = t
  | list xs, list ys => sameList xs ys
  | tuple xs, tuple ys => sameList xs ys
  | dict es, dict fs => es.length = fs.length && sameEntries es fs
  | maybe a v, maybe b w => same a b && same v w
  | either a l r, either b m s => same a b && same l m && same r s
  | bytes a, d => d.bytes? = some a
  | buffer a, d => d.bytes? = some a
  | bool b, d => sameNumber (bool b) d
  | int i, d => sameNumber (int i) d
  | float x, d => sameNumber (float x) d
  | member c n i, d => sameNumber (member c n i) d
  | _, _ => false

def sameList : List Datum → List Datum → Bool
  | [], [] => true
  | x :: xs, y :: ys => same x y && sameList xs ys
  | _, _ => false

/-- Each entry has an equal one on the other side. -/
def sameEntries : List (Datum × Datum) → List (Datum × Datum) → Bool
  | [], _ => true
  | (k, v) :: es, fs => fs.any (fun f => same k f.1 && same v f.2) && sameEntries es fs

end

/-- Puts an entry into a dict: an equal key keeps its place and takes the new value. -/
def putEntry (k v : Datum) : List (Datum × Datum) → List (Datum × Datum)
  | [] => [(k, v)]
  | (k', v') :: es => if same k' k then (k', v) :: es else (k', v') :: putEntry k v es

def dictOf (entries : List (Datum × Datum)) : Datum :=
  dict (entries.foldl (fun es e => putEntry e.1 e.2 es) [])

def find? (key : String) : List (Datum × Datum) → Option Datum
  | [] => none
  | (text s, v) :: es => if s = key then some v else find? key es
  | _ :: es => find? key es

def beforeFlat? (a b : Datum) : Option Bool :=
  match a.number?, b.number? with
  | some x, some y => some (x.less y)
  | _, _ => match a.bytes?, b.bytes? with
    | some x, some y => some (decide (x < y))
    | _, _ => match a.codes?, b.codes? with
      | some s, some t => some (decide (s.map Text.Code.value < t.map Text.Code.value))
      | _, _ => none

mutual

/-- Whether the first stands before the second, for data that have an order between them. -/
def before? : Datum → Datum → Option Bool
  | list xs, list ys => beforeList? xs ys
  | tuple xs, tuple ys => beforeList? xs ys
  | a, b => beforeFlat? a b

/-- The first elements that differ decide. -/
def beforeList? : List Datum → List Datum → Option Bool
  | [], ys => some !ys.isEmpty
  | _ :: _, [] => some false
  | x :: xs, y :: ys => if same x y then beforeList? xs ys else before? x y

end

/-- The data that follow the last one in the same direction, and the rest. -/
def takeRun? (down : Bool) (last : Datum) : List Datum → Option (List Datum × List Datum)
  | [] => some ([], [])
  | x :: xs => do
    if (← before? x last) = down then
      let (run, rest) ← takeRun? down x xs
      pure (x :: run, rest)
    else pure ([], x :: xs)

/-- The place of a datum among data in order, by halving; it lies between the two numbers. -/
def placeAmong? (d : Datum) (xs : List Datum) : Nat → Nat → Nat → Option Nat
  | fuel + 1, low, high =>
    if low < high then do
      let middle := low + (high - low) / 2
      if ← before? d (xs.getD middle null) then placeAmong? d xs fuel low middle
      else placeAmong? d xs fuel (middle + 1) high
    else some low
  | 0, low, _ => some low

def insertSorted? (xs : List Datum) (d : Datum) : Option (List Datum) :=
  (placeAmong? d xs xs.length 0 xs.length).map fun i => xs.take i ++ d :: xs.drop i

/-- The data in rising order, if they all can be compared: a first run is kept or turned around, and
the others are put in one by one. -/
def sorted? : List Datum → Option (List Datum)
  | x :: y :: xs => do
    let down ← before? y x
    let (run, rest) ← takeRun? down y xs
    let run := x :: y :: run
    rest.foldlM insertSorted? (if down then run.reverse else run)
  | xs => some xs

/-- Data that can stand as a key of a dict: nothing in them may change. -/
def isKey : Datum → Bool
  | buffer _ => false
  | list _ => false
  | dict _ => false
  | tuple xs => areKeys xs
  | maybe a v => isKey a && isKey v
  | either a l r => isKey a && isKey l && isKey r
  | _ => true
where
  areKeys : List Datum → Bool
    | [] => true
    | x :: xs => isKey x && areKeys xs

mutual

/-- The form in which a datum stands as a key: lists become tuples. -/
def asKey : Datum → Datum
  | list xs => tuple (asKeys xs)
  | d => d

def asKeys : List Datum → List Datum
  | [] => []
  | x :: xs => asKey x :: asKeys xs

end

end AlignedLedger.Datum
