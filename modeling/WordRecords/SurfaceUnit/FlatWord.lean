import WordRecords.SurfaceUnit
import WordRecords.Text.Fields
import WordRecords.Text.LowerCase

/-!
# Words of a unit

`SurfaceUnit.flatWords` lists the words of a unit, each with its own lemma. A lemma that lists several is split at
every space, so that neighbouring spaces leave an empty lemma between them.
-/

namespace WordRecords

/-- A word of a unit: its analysis, and its lemma as the pipeline writes it. -/
structure FlatWord where
  /-- The analysis, which words may share. -/
  word : Word
  segment : String
deriving DecidableEq

/-- The words of a unit, in order. -/
def SurfaceUnit.flatWords (unit : SurfaceUnit) : List FlatWord :=
  match unit.decomposition with
  | .explicit words => words.map fun word => ⟨word, word.lemmaForm⟩
  | .lemmaSeparated word => (Text.splitFields ' ' word.lemmaForm).map fun segment => ⟨word, segment⟩

/-- The part of speech with the features behind two underscores, if there are features. -/
def composeTag (pos : String) : Option String → String
  | some features => pos ++ "__" ++ features
  | none => pos

/-- The position of the governor in the sentence, from zero. No governor is position zero, and so is one before the
sentence. -/
def HeadRef.rebase : HeadRef → Nat
  | .oneBased n => (n - 1).toNat
  | .absolute head sentenceStart => head - sentenceStart

namespace FlatWord

def tag (w : FlatWord) : String := composeTag w.word.pos w.word.features

def dep (w : FlatWord) : String := Text.lowerCase w.word.dep

def lemmaForm (w : FlatWord) : String := Text.lowerCase w.segment

def head (w : FlatWord) : Nat := w.word.head.rebase

end FlatWord

end WordRecords
