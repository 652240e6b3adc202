/-! Blank characters, and text without the blanks around it. -/

namespace AlignedLedger.Text

/-- Blanks beyond ASCII. -/
def isWideBlank (c : Char) : Bool :=
  let n := c.toNat
  n = 0x85 || n = 0xa0 || n = 0x1680 || (0x2000 ≤ n && n ≤ 0x200a) || n = 0x2028 || n = 0x2029 ||
    n = 0x202f || n = 0x205f || n = 0x3000

/-- Blanks around a number: those of ASCII and the wide ones, without the four separators of files. -/
def isNumeralBlank (c : Char) : Bool := c = ' ' || ('\t' ≤ c && c ≤ '\r') || isWideBlank c

def isBlank (c : Char) : Bool := isNumeralBlank c || (0x1c ≤ c.toNat && c.toNat ≤ 0x1f)

/-- Cuts the characters of a class off both ends. -/
def trimChars (p : Char → Bool) (cs : List Char) : List Char :=
  ((cs.dropWhile p).reverse.dropWhile p).reverse

def trim (s : String) : String := String.ofList (trimChars isBlank s.toList)

end AlignedLedger.Text
