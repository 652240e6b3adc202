import AlignedLedger.Bytes.Hex
import AlignedLedger.Text.Printable

/-! Text and bytes in quotes. The quote is a single one, unless the content holds single quotes and
no double ones; the quote in use and the backslash are escaped, as is all that has no printed form. -/

namespace AlignedLedger.Text

/-- A number in hexadecimal, filled up with zeros to `width` digits. -/
def hexDigits : Nat → Nat → List Char
  | 0, _ => []
  | width + 1, n => hexDigits width (n / 16) ++ [Hex.digit (n % 16)]

def quoteFor (cs : List Char) : Char :=
  if cs.contains '\'' && !cs.contains '"' then '"' else '\''

def escaped (quote c : Char) : List Char :=
  if c = quote || c = '\\' then ['\\', c]
  else if c = '\n' then ['\\', 'n']
  else if c = '\r' then ['\\', 'r']
  else if c = '\t' then ['\\', 't']
  else if isPrintable c then [c]
  else if c.toNat < 0x100 then '\\' :: 'x' :: hexDigits 2 c.toNat
  else if c.toNat < 0x10000 then '\\' :: 'u' :: hexDigits 4 c.toNat
  else '\\' :: 'U' :: hexDigits 8 c.toNat

def quotedChars (escape : Char → Char → List Char) (cs : List Char) : List Char :=
  let q := quoteFor cs
  q :: (cs.flatMap (escape q) ++ [q])

def quoted (s : String) : String := String.ofList (quotedChars escaped s.toList)

/-- Bytes are quoted as the characters of their numbers, where only ASCII is printable. -/
def escapedByte (quote c : Char) : List Char :=
  if c.toNat < 0x7f then escaped quote c else '\\' :: 'x' :: hexDigits 2 c.toNat

/-- In a byte string that may still change, the single quote is escaped whatever the quotes are. -/
def escapedBufferByte (quote c : Char) : List Char :=
  if c = '\'' then ['\\', c] else escapedByte quote c

def quotedWith (escape : Char → Char → List Char) (b : Bytes) : String :=
  String.ofList ('b' :: quotedChars escape (b.map fun x => Char.ofNat x.toNat))

def quotedBytes (b : Bytes) : String := quotedWith escapedByte b

def quotedBuffer (b : Bytes) : String := quotedWith escapedBufferByte b

end AlignedLedger.Text
