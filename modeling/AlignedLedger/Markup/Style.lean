import AlignedLedger.Markup.Color
import AlignedLedger.Text.Blank
import AlignedLedger.Text.Lowercase

/-! Styles of text on a terminal, as the words of a mark name them. Two marks stand for one style if
their normal forms agree. -/

namespace AlignedLedger.Markup

/-- The attributes in the order of the normal form, each with its short names. -/
def attributes : List (String × List String) := [
  ("bold", ["b"]), ("dim", ["d"]), ("italic", ["i"]), ("underline", ["u"]), ("blink", []),
  ("blink2", []), ("reverse", ["r"]), ("conceal", ["c"]), ("strike", ["s"]), ("underline2", ["uu"]),
  ("frame", []), ("encircle", []), ("overline", ["o"])]

def attribute? (word : String) : Option String :=
  (attributes.find? fun a => a.1 = word || a.2.contains word).map Prod.fst

/-- The words of a text, without the blanks between them. -/
def wordsOf (s : String) : List String :=
  ((s.toList.splitBy fun c d => Text.isBlank c = Text.isBlank d).filter fun w =>
    !(w.any Text.isBlank)).map String.ofList

structure Style where
  /-- Attributes that are switched on or off; the last word counts. -/
  switches : List (String × Bool)
  color : Option String
  background : Option String
  link : Option String

namespace Style

def plain : Style := ⟨[], none, none, none⟩

def switch (s : Style) (name : String) (on : Bool) : Style :=
  { s with switches := (name, on) :: s.switches }

/-- Reads the words of a style; there is none if a word has no meaning. A word uses up at most itself
and the next one, so the number of words bounds the steps. -/
def ofWords? : Nat → List String → Style → Except Fault (Option Style)
  | 0, _, s => .ok (some s)
  | _, [], s => .ok (some s)
  | fuel + 1, word :: words, s => do
    let small := Text.lowercase word
    match small, words with
    | "on", color :: words =>
      let color := Text.lowercase color
      if ← isColor color then ofWords? fuel words { s with background := some color } else pure none
    | "not", word :: words => match attribute? word with
      | some a => ofWords? fuel words (s.switch a false)
      | none => pure none
    | "link", target :: words => ofWords? fuel words { s with link := some target }
    | "on", [] => pure none
    | "not", [] => pure none
    | "link", [] => pure none
    | _, _ => match attribute? small with
      | some a => ofWords? fuel words (s.switch a true)
      | none => if ← isColor small then ofWords? fuel words { s with color := some small } else pure none

/-- Reads a style; there is none if a word has no meaning. -/
def ofText? (text : String) : Except Fault (Option Style) :=
  if text.isEmpty || Text.trim text = "none" then .ok (some plain)
  else
    let words := wordsOf text
    ofWords? words.length words plain

/-- The words of the normal form. -/
def words (s : Style) : List String :=
  let switches := attributes.filterMap fun a => (s.switches.lookup a.1).map fun on =>
    if on then a.1 else "not " ++ a.1
  switches ++ s.color.toList ++ (s.background.map ("on " ++ ·)).toList ++
    (s.link.map ("link " ++ ·)).toList

def text (s : Style) : String :=
  if s.words.isEmpty then "none" else String.intercalate " " s.words

end Style

/-- The normal form of a style. Words that make no style stand for themselves. -/
def normalStyle (name : String) : Except Fault String := do
  match ← Style.ofText? name with
  | some s => pure s.text
  | none => pure (Text.lowercase (Text.trim name))

end AlignedLedger.Markup
