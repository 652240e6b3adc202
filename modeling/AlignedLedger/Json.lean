import AlignedLedger.Text.Quoted

/-! JSON values with ordered fields, and their two layouts. All text is written in ASCII. -/

namespace AlignedLedger

inductive Json where
  | null
  | bool (b : Bool)
  | int (i : Int)
  /-- An integer under the name of a member of an enumeration; written as the integer. -/
  | member (cls name : String) (ordinal : Int)
  | text (s : String)
  | array (items : List Json)
  | object (fields : List (String × Json))

namespace Json

def unitEscape (n : Nat) : List Char := '\\' :: 'u' :: Text.hexDigits 4 n

/-- A character beyond the basic plane is written as two surrogates. -/
def escaped (c : Char) : List Char :=
  if c = '"' || c = '\\' then ['\\', c]
  else if c = '\n' then ['\\', 'n']
  else if c = '\r' then ['\\', 'r']
  else if c = '\t' then ['\\', 't']
  else if c.toNat = 0x8 then ['\\', 'b']
  else if c.toNat = 0xc then ['\\', 'f']
  else if 0x20 ≤ c.toNat && c.toNat < 0x7f then [c]
  else if c.toNat < 0x10000 then unitEscape c.toNat
  else
    let n := c.toNat - 0x10000
    unitEscape (0xd800 + n / 0x400) ++ unitEscape (0xdc00 + n % 0x400)

def quoted (s : String) : String :=
  String.ofList ('"' :: (s.toList.flatMap escaped ++ ['"']))

/-- Where the parts of an array or object go: all on one line, or one a line, indented by some
number of spaces a level. -/
inductive Layout where
  | line
  | indented (step : Nat)

namespace Layout

/-- What stands between an opening bracket and the first part at this level. -/
def inside : Layout → Nat → String
  | line, _ => ""
  | indented step, level => "\n" ++ String.ofList (List.replicate (step * level) ' ')

def between : Layout → Nat → String
  | line, _ => ", "
  | indented step, level => "," ++ (indented step).inside level

/-- The parts of one level between their brackets; nothing between them when there are none. -/
def enclose (l : Layout) (level : Nat) (opening closing : String) (parts : List String) : String :=
  if parts.isEmpty then opening ++ closing
  else opening ++ l.inside (level + 1) ++ String.intercalate (l.between (level + 1)) parts ++
    l.inside level ++ closing

end Layout

mutual

def render (l : Layout) (level : Nat) : Json → String
  | null => "null"
  | bool b => if b then "true" else "false"
  | int i => toString i
  | member _ _ i => toString i
  | text s => quoted s
  | array xs => l.enclose level "[" "]" (renderList l (level + 1) xs)
  | object fs => l.enclose level "\x7b" "\x7d" (renderFields l (level + 1) fs)

def renderList (l : Layout) (level : Nat) : List Json → List String
  | [] => []
  | x :: xs => render l level x :: renderList l level xs

def renderFields (l : Layout) (level : Nat) : List (String × Json) → List String
  | [] => []
  | (k, v) :: fs => (quoted k ++ ": " ++ render l level v) :: renderFields l level fs

end

def line (j : Json) : String := render .line 0 j

def indented (step : Nat) (j : Json) : String := render (.indented step) 0 j

end Json

end AlignedLedger
