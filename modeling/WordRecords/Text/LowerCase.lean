import WordRecords.Text.LowerCase.Context
import WordRecords.Text.LowerCase.Mapping

/-!
# Lower case

The full lower-case form of a text. Every character is mapped by itself, with two exceptions: the dotted capital I has
a form of two characters, and a capital sigma takes its final form at the end of a word, which its neighbours decide.
-/

namespace WordRecords.Text

open LowerCase

/-- The lower-case form of a character that does not depend on its neighbours. -/
def lowerChar (c : Char) : List Char :=
  if c = 'İ' then ['i', '\u0307']
  else match runs.find? (·.covers c.toNat) with
    | some r => [Char.ofNat (r.image c.toNat)]
    | none => [c]

/-- Whether a letter follows, marks and apostrophes aside. -/
def meetsCased (cs : List Char) : Bool :=
  match cs.dropWhile isIgnorable with
  | c :: _ => isCased c
  | [] => false

/-- The form of a sigma between the text before it, read backwards, and the text after it: final at the end of a word
of at least two letters. -/
def lowerSigma (before after : List Char) : Char :=
  if meetsCased before && !meetsCased after then 'ς' else 'σ'

/-- The lower-case form of the second text, where the first, read backwards, stands before it. -/
def lowerAfter : List Char → List Char → List Char
  | _, [] => []
  | before, c :: rest =>
    (if c = 'Σ' then [lowerSigma before rest] else lowerChar c) ++ lowerAfter (c :: before) rest

/-- The lower-case form of a text. -/
def lower (cs : List Char) : List Char := lowerAfter [] cs

/-- The lower-case form of a string. -/
def lowerCase (s : String) : String := String.ofList (lower s.toList)

/-- A text is in lower case when lower-casing leaves it as it is. -/
def IsLowerCase (s : String) : Prop := lowerCase s = s

instance (s : String) : Decidable (IsLowerCase s) := inferInstanceAs (Decidable (_ = _))

end WordRecords.Text
