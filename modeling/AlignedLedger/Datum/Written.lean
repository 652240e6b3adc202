import AlignedLedger.Binary.Shortest
import AlignedLedger.Datum
import AlignedLedger.Text.Numeral
import AlignedLedger.Text.Quoted

/-! The written form of data in messages. -/

namespace AlignedLedger.Datum

def boolText (b : Bool) : String := if b then "True" else "False"

def listText (items : List String) : String := "[" ++ String.intercalate ", " items ++ "]"

def tupleText : List String → String
  | [x] => "(" ++ x ++ ",)"
  | xs => "(" ++ String.intercalate ", " xs ++ ")"

def dictText (entries : List String) : String :=
  "\x7b" ++ String.intercalate ", " entries ++ "\x7d"

mutual

def written : Datum → String
  | null => "None"
  | bool b => boolText b
  | int i => toString i
  | float x => x.text
  | text s => Text.quoted s
  | broken t => t.quoted
  | bytes b => Text.quotedBytes b
  | buffer b => "bytearray(" ++ Text.quotedBuffer b ++ ")"
  | list xs => listText (writtenList xs)
  | tuple xs => tupleText (writtenList xs)
  | dict es => dictText (writtenEntries es)
  | maybe a v => "Maybe(is_some=" ++ written a ++ ", value=" ++ written v ++ ")"
  | either a l r =>
    "Either(is_left=" ++ written a ++ ", left=" ++ written l ++ ", right=" ++ written r ++ ")"
  | member cls name i => "<" ++ cls ++ "." ++ name ++ ": " ++ toString i ++ ">"

def writtenList : List Datum → List String
  | [] => []
  | x :: xs => written x :: writtenList xs

def writtenEntries : List (Datum × Datum) → List String
  | [] => []
  | (k, v) :: es => (written k ++ ": " ++ written v) :: writtenEntries es

end

mutual

/-- No integer in the datum is too long to be written. -/
def isWritable : Datum → Bool
  | int i => Text.isWritable i
  | member _ _ i => Text.isWritable i
  | list xs => areWritable xs
  | tuple xs => areWritable xs
  | dict es => haveWritable es
  | maybe a v => isWritable a && isWritable v
  | either a l r => isWritable a && isWritable l && isWritable r
  | _ => true

def areWritable : List Datum → Bool
  | [] => true
  | x :: xs => isWritable x && areWritable xs

def haveWritable : List (Datum × Datum) → Bool
  | [] => true
  | (k, v) :: es => isWritable k && isWritable v && haveWritable es

end

/-- The text of a datum in running text, where integers of all kinds show as numbers. -/
def shown : Datum → String
  | text s => s
  | broken t => t.shown
  | member _ _ i => toString i
  | d => d.written

end AlignedLedger.Datum
