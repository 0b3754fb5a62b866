import WordRecords.Text.Ranges

/-!
# White space

The characters that separate words in any script, the no-break spaces among them.
-/

namespace WordRecords.Text

/-- The white-space characters. -/
def spaceRanges : Ranges := [
  (0x9, 0xd), (0x20, 0x20), (0x85, 0x85), (0xa0, 0xa0), (0x1680, 0x1680), (0x2000, 0x200a), (0x2028, 0x2029),
  (0x202f, 0x202f), (0x205f, 0x205f), (0x3000, 0x3000)]

def isSpace (c : Char) : Bool := spaceRanges.has c

/-- Whether a text holds nothing but white space. -/
def isBlank (s : String) : Bool := s.toList.all isSpace

end WordRecords.Text
