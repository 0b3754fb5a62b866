/-!
# Surface units

A surface unit is a stretch of the text as a pipeline segments it: a word, or several words written as one. The
readers of all pipelines produce surface units, sentence by sentence, and differ only in how a unit is divided into
words and in how a word points to its governor.
-/

namespace WordRecords

/-- What a pipeline says about the offset of a unit. -/
structure OffsetHint where
  /-- The offset itself. -/
  startChar : Option Nat
  /-- Other data, as `key=value` fields between bars, which may hold the offset instead. -/
  misc : Option String
deriving DecidableEq

/-- The governor of a word, as a pipeline writes it. -/
inductive HeadRef
  /-- A position in the sentence, counted from one. Zero and less stand for no governor. -/
  | oneBased (n : Int)
  /-- A token of the document, in a sentence that begins with another one. A root points at itself. -/
  | absolute (head sentenceStart : Nat)
deriving DecidableEq

/-- A word with its analysis. -/
structure Word where
  /-- The number that the pipeline gives the word. -/
  nativeId : Nat
  pos : String
  features : Option String
  dep : String
  head : HeadRef
  lemmaForm : String
deriving DecidableEq

/-- How a unit is divided into words. -/
inductive Decomposition
  /-- Every word has an analysis of its own. -/
  | explicit (words : List Word)
  /-- The words share one analysis, whose lemma lists theirs with spaces between. -/
  | lemmaSeparated (word : Word)
deriving DecidableEq

/-- A stretch of the text. -/
structure SurfaceUnit where
  text : String
  /-- What is known about its offset. -/
  offset : OffsetHint
  decomposition : Decomposition
deriving DecidableEq

/-- The units of a sentence, in order. -/
abbrev UnitSentence := List SurfaceUnit

/-- A unit that is a single word. -/
def Decomposition.single (word : Word) : Decomposition := .explicit [word]

/-- The analyses that a unit holds. -/
def Decomposition.words : Decomposition → List Word
  | .explicit words => words
  | .lemmaSeparated word => [word]

end WordRecords
