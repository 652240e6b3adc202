import AlignedLedger.Text.Quoted

/-! Text that has no UTF-8 form. Besides characters it holds halves of surrogate pairs, each without the
half that belongs to it. -/

namespace AlignedLedger.Text

inductive Code where
  | char (c : Char)
  | half (k : Fin 2048)
deriving DecidableEq

namespace Code

/-- The first of the numbers that no character has. -/
def firstHalf : Nat := 0xd800

def value : Code → Nat
  | char c => c.toNat
  | half k => firstHalf + k

def isHalf : Code → Bool
  | char _ => false
  | half _ => true

def char? : Code → Option Char
  | char c => some c
  | half _ => none

def escaped (quote : Char) : Code → List Char
  | char c => Text.escaped quote c
  | half k => '\\' :: 'u' :: hexDigits 4 (firstHalf + k)

/-- Running text has no place for a half. The private character of the same place in the last plane stands
for it there. -/
def shown : Code → Char
  | char c => c
  | half k => Char.ofNat (0x100000 + firstHalf + k)

end Code

def codes (s : String) : List Code := s.toList.map .char

/-- A text with a half in it. -/
structure Broken where
  codes : List Code
  hasHalf : codes.any Code.isHalf = true
deriving DecidableEq

namespace Broken

def quoted (t : Broken) : String :=
  let q := quoteFor (t.codes.filterMap Code.char?)
  String.ofList (q :: (t.codes.flatMap (Code.escaped q) ++ [q]))

def shown (t : Broken) : String := String.ofList (t.codes.map Code.shown)

end Broken

end AlignedLedger.Text
