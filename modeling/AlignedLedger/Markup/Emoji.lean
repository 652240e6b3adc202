import AlignedLedger.Bytes.Hex
import AlignedLedger.Markup.PictureTable
import AlignedLedger.Text.Blank
import AlignedLedger.Text.Lowercase

/-! Names of pictures between colons give way to the pictures. A name that no picture has stays as it
is, with its colons. -/

namespace AlignedLedger.Markup.Emoji

def codePoint (digits : String) : Char :=
  Char.ofNat ((Hex.number? digits.toList).getD 0)

/-- The words on the lines of the table. -/
def entries : List (List String) := (pictureTable.splitOn "\n").map (·.splitOn " ")

def picture? (name : String) : Option (List Char) :=
  (entries.find? fun e => e.tail.contains name).map fun e =>
    ((e.headD "").splitOn "-").map codePoint

/-- How a name may end, and the sign for the variant of the picture that it asks for. -/
def endings : List (List Char × List Char) :=
  [("-emoji:".toList, ['\uFE0F']), ("-text:".toList, ['\uFE0E']), (":".toList, [])]

/-- What a name between colons shows. -/
def shown (name ending sign : List Char) : List Char :=
  match picture? (Text.lowercase (String.ofList name)) with
  | some cs => cs ++ sign
  | none => ':' :: (name ++ ending)

/-- What a name behind its first colon shows, and how much of the text it takes. -/
def named? (before : List Char) : List Char → Option (List Char × Nat)
  | [] => none
  | c :: cs =>
    match endings.find? fun e => e.1.isPrefixOf (c :: cs) with
    | some (ending, sign) =>
      some (shown before.reverse ending sign, before.length + ending.length)
    | none => if Text.isBlank c then none else named? (c :: before) cs

/-- The text with pictures for their names, past so many characters. -/
def replaceFrom : Nat → List Char → List Char
  | _, [] => []
  | skipped + 1, _ :: cs => replaceFrom skipped cs
  | 0, c :: cs =>
    match if c = ':' then named? [] cs else none with
    | some (text, length) => text ++ replaceFrom length cs
    | none => c :: replaceFrom 0 cs

def replace (cs : List Char) : List Char := replaceFrom 0 cs

end AlignedLedger.Markup.Emoji
