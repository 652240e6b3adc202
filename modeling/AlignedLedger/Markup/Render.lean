import AlignedLedger.Markup.Emoji
import AlignedLedger.Markup.Literal
import AlignedLedger.Markup.Style
import AlignedLedger.Text.WordChar

/-! Text with marks of style in brackets, as a terminal shows it. A mark begins with a small letter or
a sign; a backslash in front keeps it as text. A mark with a slash closes the last open mark, or the
last one of its style, and has to find it. Names of pictures between colons give way to the
pictures. -/

namespace AlignedLedger.Markup

inductive Piece where
  | text (cs : List Char)
  | mark (name : String) (argument : Option String)

def isMarkStart (c : Char) : Bool := ('a' ≤ c && c ≤ 'z') || c = '#' || c = '/' || c = '@'

/-- The inside of a mark behind its opening bracket, and what follows its closing one. -/
def markBody? : List Char → Option (List Char × List Char)
  | [] => none
  | c :: cs =>
    if !isMarkStart c then none
    else
      let body := cs.takeWhile fun d => d != '[' && d != ']'
      match cs.drop body.length with
      | ']' :: rest => some (c :: body, rest)
      | _ => none

/-- The name of a mark, and its argument behind an equals sign. -/
def Piece.ofBody (body : List Char) : Piece :=
  let name := body.takeWhile (· != '=')
  match body.drop name.length with
  | _ :: argument => mark (String.ofList name) (some (String.ofList argument))
  | [] => mark (String.ofList name) none

/-- What stands for a mark behind so many backslashes: each pair is one of them, and one that is left
over makes the mark text. -/
def markPieces (backslashes : Nat) (body : List Char) : List Piece :=
  let shown := if backslashes < 2 then [] else [Piece.text (List.replicate (backslashes / 2) '\\')]
  if backslashes % 2 = 1 then shown ++ [.text ('[' :: (body ++ [']']))] else shown ++ [.ofBody body]

/-- The pieces of a text, behind the plain characters before it in reverse. Its length bounds the
steps. -/
def piecesFrom : Nat → List Char → List Char → List Piece
  | fuel + 1, before, c :: cs =>
    let slashes := (c :: cs).takeWhile (· = '\\')
    let found := match (c :: cs).drop slashes.length with
      | '[' :: rest => markBody? rest
      | _ => none
    match found with
    | some (body, rest) =>
      (if before.isEmpty then [] else [.text before.reverse]) ++ markPieces slashes.length body ++
        piecesFrom fuel [] rest
    | none =>
      if slashes.isEmpty then piecesFrom fuel (c :: before) cs
      else piecesFrom fuel (slashes ++ before) ((c :: cs).drop slashes.length)
  | _, before, _ => if before.isEmpty then [] else [.text before.reverse]

def pieces (cs : List Char) : List Piece := piecesFrom cs.length [] cs

/-- A bracket that begins no mark may be written with a backslash. -/
def unescaped : List Char → List Char
  | '\\' :: '[' :: cs => '[' :: unescaped cs
  | c :: cs => c :: unescaped cs
  | [] => []

/-- Characters that a terminal acts on, and that are left out. -/
def controls : List Char := ['\x07', '\x08', '\x0b', '\x0c', '\r']

/-- What a terminal shows of text between marks. -/
def shownText (cs : List Char) : List Char :=
  (Emoji.replace (unescaped cs)).filter fun c => !controls.contains c

/-- The argument of an action: the name of a handler with or without literals in brackets, or a
literal. -/
def isAction (argument : String) : Bool :=
  let cs := Text.trimChars Text.isBlank argument.toList
  let rest := cs.dropWhile fun c => Text.isWordChar c || c = '.'
  if rest.isEmpty then true
  else if rest.head? = some '(' && rest.getLast? = some ')' && !rest.contains '\n' then
    Literal.isLiteral rest
  else Literal.isLiteral cs

/-- An open mark: its style in normal form, its argument, and how much text stands before it. -/
structure Open where
  style : String
  argument : Option String
  start : Nat

namespace Open

/-- Marks of actions change no style. -/
def isOfAction (o : Open) : Bool := "@".isPrefixOf o.style

/-- The argument of an action is looked at when its mark is closed. -/
def check (o : Open) : Except Fault Unit :=
  match o.argument with
  | some a => if o.isOfAction && !a.isEmpty && !isAction a then .error .badMarkup else .ok ()
  | none => .ok ()

/-- The argument adds words to the style. -/
def styleText (o : Open) : String :=
  match o.argument with
  | some a => o.style ++ " " ++ a
  | none => o.style

end Open

/-- Text in a style. -/
structure Span where
  style : String
  text : Array Char

/-- What is shown, the open marks, the last one first, and the text of the closed ones. -/
structure Canvas where
  shown : Array Char
  marks : List Open
  spans : List Span

namespace Canvas

def blank : Canvas := ⟨#[], [], []⟩

def span? (c : Canvas) (o : Open) : Option Span :=
  if o.isOfAction then none else some ⟨o.styleText, c.shown.extract o.start c.shown.size⟩

/-- Closes the open mark at a place. -/
def closeAt (c : Canvas) (place : Nat) : Except Fault Canvas :=
  match c.marks[place]? with
  | none => .error .badMarkup
  | some o => do
    o.check
    pure { c with marks := c.marks.eraseIdx place, spans := (c.span? o).toList ++ c.spans }

/-- Closes the last mark of a style, or the last mark if none is named. -/
def close (c : Canvas) (name : String) : Except Fault Canvas := do
  let wanted := Text.trim name
  if wanted.isEmpty then c.closeAt 0
  else
    let style ← normalStyle wanted
    match c.marks.findIdx? fun o => o.style = style with
    | some place => c.closeAt place
    | none => throw .badMarkup

def put (c : Canvas) : Piece → Except Fault Canvas
  | .text cs => .ok { c with shown := c.shown ++ shownText cs }
  | .mark name argument => match name.toList with
    | '/' :: closed => c.close (String.ofList closed)
    | _ => do
      let style ← normalStyle name
      pure { c with marks := ⟨style, argument, c.shown.size⟩ :: c.marks }

/-- All text in a style, with that of the marks that nothing closes. -/
def allSpans (c : Canvas) : List Span := c.marks.filterMap c.span? ++ c.spans

/-- Whether a terminal takes the text apart, at the breaks of its lines and at its tabs. -/
def isTakenApart (c : Canvas) : Bool := c.shown.any fun d => d = '\n' || d = '\t'

/-- The text in a style that a terminal looks at. What is empty once the text is taken apart is
forgotten. -/
def seenSpans (c : Canvas) : List Span :=
  if c.isTakenApart then c.allSpans.filter fun s => s.text.any (· != '\n') else c.allSpans

/-- The text, once its styles are looked at. Words that make no style do no harm. -/
def finish (c : Canvas) : Except Fault String := do
  c.seenSpans.forM fun s => do
    let _ ← Style.ofText? s.style
  pure (String.ofList c.shown.toList)

end Canvas

/-- The text that a terminal shows. -/
def render (s : String) : Except Fault String := do
  let c ← (pieces s.toList).foldlM Canvas.put .blank
  c.finish

end AlignedLedger.Markup
