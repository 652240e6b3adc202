import AlignedLedger.Alignment.AlignedValue

/-! Entries under aligned keys, in the order of the keys, each key once. -/

namespace AlignedLedger.Entries

variable {α : Type}

def get? (key : AlignedValue) : List (AlignedValue × α) → Option α
  | [] => none
  | (k, x) :: es => if k = key then some x else get? key es

/-- Puts a value under a key, in the place of an old value or where the order wants it. -/
def insert (key : AlignedValue) (value : α) : List (AlignedValue × α) → List (AlignedValue × α)
  | [] => [(key, value)]
  | (k, x) :: es => match key.order k with
    | .lt => (key, value) :: (k, x) :: es
    | .eq => (key, value) :: es
    | .gt => (k, x) :: insert key value es

def erase (key : AlignedValue) : List (AlignedValue × α) → List (AlignedValue × α)
  | [] => []
  | (k, x) :: es => if k = key then es else (k, x) :: erase key es

/-- Brings entries into order; of entries under one key the last counts. -/
def ofList (es : List (AlignedValue × α)) : List (AlignedValue × α) :=
  es.foldl (fun acc e => insert e.1 e.2 acc) []

/-- Each key stands before the ones behind it. -/
def Sorted (es : List (AlignedValue × α)) : Prop := es.Pairwise fun e f => e.1.order f.1 = .lt

end AlignedLedger.Entries
