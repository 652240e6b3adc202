import AlignedLedger.Bytes.Hex
import AlignedLedger.Text.CharacterNameTable

/-! The names of characters: those of a table, in capital or small letters, and those that are made by
rule for ideographs and for syllables, in capital letters alone. -/

namespace AlignedLedger.Text

/-- Code points of the ideographs whose names give the code point, in Unicode 14. -/
def ideographRanges : List (Nat × Nat) := [
  (0x3400, 0x4dbf), (0x4e00, 0x9fff), (0x20000, 0x2a6df), (0x2a700, 0x2b738), (0x2b740, 0x2b81d),
  (0x2b820, 0x2cea1), (0x2ceb0, 0x2ebe0), (0x30000, 0x3134a)]

/-- Four or five digits in capital letters name the code point of an ideograph. -/
def isIdeographNumber (digits : List Char) : Bool :=
  (digits.length = 4 || digits.length = 5) && !digits.any Char.isLower &&
    (Hex.number? digits).any fun n => ideographRanges.any fun r => r.1 ≤ n && n ≤ r.2

def leadingSounds : List String := [
  "G", "GG", "N", "D", "DD", "R", "M", "B", "BB", "S", "SS", "", "J", "JJ", "C", "K", "T", "P", "H"]

def vowels : List String := [
  "A", "AE", "YA", "YAE", "EO", "E", "YEO", "YE", "O", "WA", "WAE", "OE", "YO", "U", "WEO", "WE", "WI",
  "YU", "EU", "YI", "I"]

def trailingSounds : List String := [
  "", "G", "GG", "GS", "N", "NJ", "NH", "D", "L", "LG", "LM", "LB", "LS", "LT", "LP", "LH", "M", "B",
  "BS", "S", "SS", "NG", "J", "C", "K", "T", "P", "H"]

/-- A sound, a vowel, and a sound make a syllable; both sounds may be silent. -/
def isSyllable (name : String) : Bool :=
  leadingSounds.any fun l => vowels.any fun v => trailingSounds.any fun t => l ++ v ++ t = name

/-- What follows some words at the front of a name. -/
def behind? (front : String) (name : List Char) : Option (List Char) :=
  if front.toList.isPrefixOf name then some (name.drop front.length) else none

/-- Whether a word is an item of the table, or one of the run that an item stands for. -/
def isInItem (word item : List Char) : Bool :=
  let first := item.takeWhile fun c => c != '~' && c != '#'
  match item.drop first.length with
  | [] => word = item
  | mark :: last =>
    let stem := first.take (first.length - last.length)
    let digits := word.drop stem.length
    let isDigit (c : Char) := c.isDigit || (mark = '#' && c.isAlpha)
    stem.isPrefixOf word && digits.length = last.length && digits.all isDigit &&
      match Hex.number? (first.drop stem.length), Hex.number? digits, Hex.number? last with
      | some low, some n, some high => low ≤ n && n ≤ high
      | _, _, _ => false

/-- The front that an entry gives, behind the front of the entry before it, and its items. -/
def readEntry (before : List Char) (entry : String) : List Char × List (List Char) :=
  let cs := entry.toList.dropWhile (· = ' ')
  let count := cs.takeWhile Char.isDigit
  let added := (cs.drop (count.length + 1)).takeWhile (· != ':')
  let items := String.ofList (cs.drop (count.length + 1 + added.length + 1))
  let kept := count.foldl (fun n c => 10 * n + (c.toNat - '0'.toNat)) 0
  (before.take kept ++ added, (items.splitOn " ").map String.toList)

/-- Whether some entry has a front and an item for the last word. -/
def isInEntries (front last : List Char) : List Char → List String → Bool
  | _, [] => false
  | before, entry :: entries =>
    let (here, items) := readEntry before entry
    (here = front && items.any (isInItem last)) || isInEntries front last here entries

def nameEntries : List String :=
  (characterNameTable.map fun c => if c = '\n' then ' ' else c).splitOn ";"

/-- Whether the table has a name in capital letters. -/
def isInTable (name : List Char) : Bool :=
  let last := (name.reverse.takeWhile (· != ' ')).reverse
  let front := name.take (name.length - last.length - 1)
  !last.isEmpty && name.head? != some ' ' && isInEntries front last [] nameEntries

def isCharacterName (name : List Char) : Bool :=
  match behind? "CJK UNIFIED IDEOGRAPH-" name, behind? "HANGUL SYLLABLE " name with
  | some digits, _ => isIdeographNumber digits
  | _, some syllable => isSyllable (String.ofList syllable)
  | none, none => isInTable (name.map Char.toUpper)

end AlignedLedger.Text
