import AlignedLedger.Bytes

/-! Text as UTF-8 bytes. -/

namespace AlignedLedger.Utf8

def encode (s : String) : Bytes := s.toUTF8.data.toList

/-- The text of these bytes, if they are valid UTF-8. -/
def decode? (b : Bytes) : Option String := String.fromUTF8? ⟨b.toArray⟩

end AlignedLedger.Utf8
