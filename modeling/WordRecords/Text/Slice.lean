/-!
# Slices by character offsets

A text is stored as bytes, and an offset counts characters. `CharIndex` is the table that leads from one to the other:
entry `n` is the byte position of character `n`, and the last entry is the position behind the text.
-/

namespace WordRecords.Text

/-- The byte positions of the characters that follow, from the byte position `at0` on, with the position behind the
last one. -/
def bytePositions : Nat → List Char → List Nat
  | at0, [] => [at0]
  | at0, c :: rest => at0 :: bytePositions (at0 + c.utf8Size) rest

/-- The byte positions of the characters of a text. -/
structure CharIndex where
  /-- The byte position of each character, and the position behind the last one. -/
  bytes : Array Nat

def CharIndex.ofString (s : String) : CharIndex := ⟨(bytePositions 0 s.toList).toArray⟩

/-- The part of a text between two byte positions, when both are positions between characters and in order. -/
def sliceBytes? (s : String) (start stop : Nat) : Option String := do
  let b ← s.pos? ⟨start⟩
  let e ← s.pos? ⟨stop⟩
  if b ≤ e then some (s.extract b e) else none

/-- The characters from offset `start` up to offset `stop` of the text that the table belongs to. -/
def CharIndex.slice? (index : CharIndex) (s : String) (start stop : Nat) : Option String := do
  guard (start ≤ stop)
  let b ← index.bytes[start]?
  let e ← index.bytes[stop]?
  sliceBytes? s b e

end WordRecords.Text
