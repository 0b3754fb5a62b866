import WordRecords.Document
import WordRecords.SurfaceUnit.FlatWord
import WordRecords.SurfaceUnit.Offset

/-!
# From units to documents

`assemble` turns the units of all sentences into records, numbers these through the document and through every
sentence, and stores them in a schema. A unit without an offset spoils the whole document: the first one is reported.
-/

namespace WordRecords

/-- The record of a word, where its numbers and the text and offset of its unit are known. -/
def FlatWord.toRecord (w : FlatWord) (id index : Nat) (text : String) (idx : Nat) : Record where
  id := id
  pos := w.word.pos
  tag := w.tag
  dep := w.dep
  head := w.head
  text := text
  idx := idx
  index := index
  lemmaForm := w.lemmaForm

/-- A word with the text and the offset of its unit. -/
structure AnchoredWord where
  /-- The word. -/
  flat : FlatWord
  /-- The text of its unit. -/
  text : String
  /-- The offset of its unit. -/
  idx : Nat

/-- The words of a unit with its offset, or the text of a unit that has none. -/
def SurfaceUnit.anchor (unit : SurfaceUnit) : Except String (List AnchoredWord) :=
  match unit.offset.resolve? with
  | some idx => .ok (unit.flatWords.map fun flat => ⟨flat, unit.text, idx⟩)
  | none => .error unit.text

/-- The words of a sentence, or the text of its first unit without an offset. -/
def anchorSentence (units : UnitSentence) : Except String (List AnchoredWord) := do
  let words ← units.mapM SurfaceUnit.anchor
  pure words.flatten

/-- The records of a sentence whose first word has a given number. -/
def recordSentence (start : Nat) (words : List AnchoredWord) : List Record :=
  words.mapIdx fun index w => w.flat.toRecord (start + index) index w.text w.idx

/-- The records of sentences of which the first begins with a given number. -/
def recordSentences : Nat → List (List AnchoredWord) → List (List Record)
  | _, [] => []
  | start, words :: later => recordSentence start words :: recordSentences (start + words.length) later

/-- The records of sentences of units, or the text of the first unit without an offset. -/
def assembleSentences (sentences : List UnitSentence) : Except String (List (List Record)) := do
  let anchored ← sentences.mapM anchorSentence
  pure (recordSentences 0 anchored)

/-- The document of sentences of units, or the text of the first unit without an offset. -/
def assemble (schema : Schema) (labels : List String) (sentences : List UnitSentence) : Except String Document := do
  let records ← assembleSentences sentences
  pure ⟨labels, .ofSentences schema records⟩

end WordRecords
