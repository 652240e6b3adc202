import AlignedLedger.Markup.Literal.QuotedText

/-! The words and signs of a literal. They stand on one line; the line goes on behind a backslash at
its end and within brackets, and only blank lines and remarks may surround it. -/

namespace AlignedLedger.Markup.Literal

inductive Token where
  | number (isImaginary : Bool)
  | text (isBytes : Bool)
  /-- A truth value, nothing, or three points. -/
  | constant
  /-- The name that makes an empty set with a pair of brackets behind it. -/
  | setName
  | sign (c : Char)

def signs : List Char := ['(', ')', '\x7b', '\x7d', ',', ':', '+', '-']

/-- The letters of the name for an empty set, each in all forms that count as the same letter. -/
def setLetters : List (List Char) := [
  "sſˢₛｓ𝐬𝑠𝒔𝓈𝓼𝔰𝕤𝖘𝗌𝘀𝘴𝙨𝚜".toList,
  "eᵉₑℯⅇｅ𝐞𝑒𝒆𝓮𝔢𝕖𝖊𝖾𝗲𝘦𝙚𝚎".toList,
  "tᵗₜｔ𝐭𝑡𝒕𝓉𝓽𝔱𝕥𝖙𝗍𝘁𝘵𝙩𝚝".toList]

def isSetName (name : List Char) : Bool :=
  name.length = setLetters.length && (name.zip setLetters).all fun p => p.2.contains p.1

def name? (cs : List Char) : Option (Token × List Char) :=
  let name := cs.takeWhile isNameChar
  if ["True".toList, "False".toList, "None".toList].contains name then
    some (.constant, cs.drop name.length)
  else if isSetName name then some (.setName, cs.drop name.length)
  else none

/-- The token in front, and what follows it. -/
def token? : List Char → Option (Token × List Char)
  | '.' :: '.' :: '.' :: rest => some (.constant, rest)
  | [] => none
  | c :: rest =>
    if signs.contains c then some (.sign c, rest)
    else if c.isDigit || c = '.' then (number? (c :: rest)).map fun n => (.number n.1, n.2)
    else ((quotedText? (c :: rest)).map fun t => (.text t.1, t.2)).or (name? (c :: rest))

/-- The blanks in front of a line, as whether they set it in, and what follows them. A page break undoes
them; those before a break of the line count. -/
def lineFront? (isSetIn : Bool) : List Char → Option (Bool × List Char)
  | ' ' :: cs => lineFront? true cs
  | '\t' :: cs => lineFront? true cs
  | '\x0c' :: cs => lineFront? false cs
  | '\\' :: '\n' :: c :: cs => (lineFront? isSetIn (c :: cs)).map fun p => (isSetIn || p.1, p.2)
  | '\\' :: _ => none
  | cs => some (isSetIn, cs)

/-- What follows blank lines and remarks, which is not set in. The number of characters bounds the
steps. -/
def behindBlankLines? : Nat → List Char → Option (List Char)
  | 0, cs => some cs
  | fuel + 1, cs => match lineFront? false cs with
    | none => none
    | some (_, '#' :: cs) => behindBlankLines? fuel (cs.dropWhile (· != '\n'))
    | some (_, '\n' :: cs) => behindBlankLines? fuel cs
    | some (isSetIn, cs) => if isSetIn then none else some cs

/-- How deep brackets may stand in brackets. -/
def deepest : Nat := 200

/-- How deep a token leads that stands so deep. -/
def Token.depth? (depth : Nat) : Token → Option Nat
  | .sign '(' | .sign '\x7b' => if depth < deepest then some (depth + 1) else none
  | .sign ')' | .sign '\x7d' => some (depth - 1)
  | _ => some depth

/-- The tokens of a line at some depth in brackets, if nothing but blank lines follows it. The number of
characters bounds the steps. -/
def lineTokens? : Nat → Nat → List Char → Option (List Token)
  | fuel + 1, depth, '\n' :: cs =>
    if 0 < depth then lineTokens? fuel depth cs
    else if (behindBlankLines? fuel cs).any List.isEmpty then some []
    else none
  | fuel + 1, depth, '#' :: cs => lineTokens? fuel depth (cs.dropWhile (· != '\n'))
  | fuel + 1, depth, '\\' :: '\n' :: c :: cs => lineTokens? fuel depth (c :: cs)
  | fuel + 1, depth, c :: cs =>
    if c = ' ' || c = '\t' || c = '\x0c' then lineTokens? fuel depth cs
    else do
      let (t, rest) ← token? (c :: cs)
      let depth ← t.depth? depth
      let ts ← lineTokens? fuel depth rest
      pure (t :: ts)
  | _, _, _ => some []

/-- Both ways to break a line other than a line feed count as one. -/
def withLineFeeds : List Char → List Char
  | '\r' :: '\n' :: cs => '\n' :: withLineFeeds cs
  | '\r' :: cs => '\n' :: withLineFeeds cs
  | c :: cs => c :: withLineFeeds cs
  | [] => []

/-- The tokens of a text. -/
def tokens? (cs : List Char) : Option (List Token) := do
  let cs := withLineFeeds (cs.dropWhile fun c => c = ' ' || c = '\t')
  if cs.contains '\x00' then none
  let line ← behindBlankLines? cs.length cs
  lineTokens? line.length 0 line

end AlignedLedger.Markup.Literal
