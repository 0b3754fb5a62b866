import WordRecords.SurfaceUnit
import WordRecords.Text.Digits

/-!
# Offsets of units

Where the offset of a unit is not given as a number, it may stand among other data in a `start_char` field.
`startChar?` looks for the leftmost place in those data at which a field begins with the key and goes on with digits up
to the field's end. Digits of any script make such a place; only ASCII digits that denote a count make an offset.
-/

namespace WordRecords

/-- The key of the offset field, with its equals sign. -/
def startCharKey : List Char := "start_char=".toList

/-- The digits behind the key, when a text starts with the key and digits, and then ends or has a bar. -/
def startCharDigits? (cs : List Char) : Option (List Char) :=
  if startCharKey.isPrefixOf cs then
    let value := cs.drop startCharKey.length
    let digits := value.takeWhile Text.isDecimalDigit
    if digits = [] then none
    else match value.dropWhile Text.isDecimalDigit with
      | [] => some digits
      | c :: _ => if c = '|' then some digits else none
  else none

/-- The digits at the leftmost place behind a bar. -/
def laterDigits? : List Char → Option (List Char)
  | [] => none
  | c :: rest =>
    if c = '|' then (startCharDigits? rest).or (laterDigits? rest) else laterDigits? rest

/-- The digits at the leftmost place at the beginning of a text or behind a bar. -/
def leftmostDigits? (cs : List Char) : Option (List Char) :=
  (startCharDigits? cs).or (laterDigits? cs)

/-- The offset among other data, which the leftmost place alone decides. -/
def startChar? (misc : String) : Option Nat :=
  (leftmostDigits? misc.toList).bind Text.readCount?

/-- The offset that a hint gives. A number wins over the other data. -/
def OffsetHint.resolve? (hint : OffsetHint) : Option Nat :=
  hint.startChar.or (hint.misc.bind startChar?)

end WordRecords
