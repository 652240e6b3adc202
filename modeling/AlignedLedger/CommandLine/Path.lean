/-! Paths of files as they are written: the parts between slashes. Empty parts and single dots say
nothing; two dots lead back up. -/

namespace AlignedLedger.CommandLine

structure Path where
  /-- It starts from the root, not from the working directory. -/
  absolute : Bool
  parts : List String
deriving DecidableEq

namespace Path

def split : List Char → List (List Char)
  | [] => [[]]
  | '/' :: cs => [] :: split cs
  | c :: cs => match split cs with
    | part :: parts => (c :: part) :: parts
    | [] => [[c]]

def ofText (s : String) : Path :=
  ⟨s.toList.head? = some '/',
    ((split s.toList).filter fun p => p ≠ [] && p ≠ ['.']).map String.ofList⟩

end Path

end AlignedLedger.CommandLine
