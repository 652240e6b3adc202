import AlignedLedger.Bytes.Hex
import AlignedLedger.Markup.Literal.Number
import AlignedLedger.Text.CharacterName

/-! Quoted text in literals: text or bytes, raw or with escapes, between one quote or three. -/

namespace AlignedLedger.Markup.Literal

/-- Letters in front of the quotes: whether they ask for bytes, and for escapes to stay as they are. -/
def quotingMarks : List (List Char × Bool × Bool) := [
  ([], false, false), (['u'], false, false), (['r'], false, true), (['b'], true, false),
  (['b', 'r'], true, true), (['r', 'b'], true, true)]

/-- What stands before closing quotes, and what follows them. A single quote closes on its line. -/
def upToQuotes? (quotes : List Char) : List Char → Option (List Char × List Char)
  | [] => none
  | '\\' :: c :: cs => (upToQuotes? quotes cs).map fun p => ('\\' :: c :: p.1, p.2)
  | c :: cs =>
    if quotes.isPrefixOf (c :: cs) then some ([], (c :: cs).drop quotes.length)
    else if c = '\n' && quotes.length = 1 then none
    else (upToQuotes? quotes cs).map fun p => (c :: p.1, p.2)

/-- The number that so many hexadecimal digits in front make. -/
def hexInFront? (count : Nat) (cs : List Char) : Option Nat :=
  let digits := cs.take count
  if digits.length = count then Hex.number? digits else none

/-- An escape is in order, given what follows its letter. Letters without a meaning are no fault. -/
def isEscape (isBytes : Bool) (letter : Char) (cs : List Char) : Bool :=
  match isBytes, letter, cs with
  | _, 'x', _ => (hexInFront? 2 cs).isSome
  | false, 'u', _ => (hexInFront? 4 cs).isSome
  | false, 'U', _ => (hexInFront? 8 cs).any (· < 0x110000)
  | false, 'N', '\x7b' :: cs => cs.contains '\x7d' && Text.isCharacterName (cs.takeWhile (· != '\x7d'))
  | false, 'N', _ => false
  | _, _, _ => true

def hasGoodEscapes (isBytes : Bool) : List Char → Bool
  | '\\' :: c :: cs => isEscape isBytes c cs && hasGoodEscapes isBytes cs
  | _ :: cs => hasGoodEscapes isBytes cs
  | [] => true

/-- Whether the quoted text in front stands for bytes, and what follows it. Bytes are written in
ASCII. -/
def quotedText? (cs : List Char) : Option (Bool × List Char) :=
  let mark := cs.takeWhile isNameChar
  match quotingMarks.lookup (mark.map Char.toLower), cs.drop mark.length with
  | some (isBytes, isRaw), quote :: rest =>
    if quote = '\'' || quote = '"' then
      let quotes := if [quote, quote].isPrefixOf rest then [quote, quote, quote] else [quote]
      ((upToQuotes? quotes ((quote :: rest).drop quotes.length)).filter fun p =>
        (isRaw || hasGoodEscapes isBytes p.1) && !(isBytes && p.1.any (0x80 ≤ ·.toNat))).map fun p =>
          (isBytes, p.2)
    else none
  | _, _ => none

end AlignedLedger.Markup.Literal
