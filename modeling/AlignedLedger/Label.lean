import AlignedLedger.Text.Numeral

/-! Names made up of words and numbers. The numbers stay numbers, since one that is too long cannot be
written. -/

namespace AlignedLedger

/-- A word or a number in a name. -/
inductive Label.Part where
  | word (s : String)
  | number (n : Nat)

structure Label where
  parts : List Label.Part

namespace Label

def Part.text : Part → String
  | word s => s
  | number n => toString n

def Part.number? : Part → Option Nat
  | word _ => none
  | number n => some n

def word (s : String) : Label := ⟨[.word s]⟩

def number (n : Nat) : Label := ⟨[.number n]⟩

instance : Coe String Label := ⟨word⟩

instance : Append Label := ⟨fun l m => ⟨l.parts ++ m.parts⟩⟩

def text (l : Label) : String := String.join (l.parts.map Part.text)

def numbers (l : Label) : List Nat := l.parts.filterMap Part.number?

/-- No number in the name is too long to be written. -/
def isWritable (l : Label) : Bool := l.numbers.all fun n => Text.isWritable n

@[simp] theorem numbers_word (s : String) : (word s).numbers = [] := rfl

@[simp] theorem numbers_number (n : Nat) : (number n).numbers = [n] := rfl

@[simp] theorem numbers_append (l m : Label) : (l ++ m).numbers = l.numbers ++ m.numbers :=
  List.filterMap_append

@[simp] theorem isWritable_word (s : String) : (word s).isWritable = true := rfl

@[simp] theorem isWritable_number (n : Nat) : (number n).isWritable = Text.isWritable n := by
  simp [isWritable]

@[simp] theorem isWritable_append (l m : Label) :
    (l ++ m).isWritable = (l.isWritable && m.isWritable) := by
  simp [isWritable]

end Label

end AlignedLedger
