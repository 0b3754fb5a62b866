import WordRecords.Json.Shape

/-!
# Documents of spaCy output

spaCy writes a document as its text, the spans of its sentences, and its tokens. Spans and tokens refer to the text by
character offsets.
-/

namespace WordRecords.Spacy

open Json

/-- The span of a sentence. -/
structure Span where
  /-- The offset at which it starts. -/
  start : Nat
  /-- The offset before which it ends. -/
  stop : Nat
deriving DecidableEq

/-- A token with its analysis. -/
structure Token where
  id : Nat
  /-- The offset at which it starts. -/
  start : Nat
  /-- The offset before which it ends. -/
  stop : Nat
  pos : Option String
  morph : Option String
  lemmaForm : Option String
  dep : Option String
  /-- The number of the governor; a root's is its own. -/
  head : Option Nat
deriving DecidableEq

structure Doc where
  text : String
  sents : List Span
  tokens : List Token
deriving DecidableEq

/-! ### Reading -/

inductive SpanField
  | start | stop
deriving DecidableEq

/-- The fields of a span, in the order of its array form. -/
def spanShape : RecordShape SpanField where
  fields := [.start, .stop]
  name
    | .start => "start"
    | .stop => "end"
  Slot _ := Nat
  read _ := readCount
  mayLack _ := false

def Span.read : Node → Reading Span :=
  spanShape.readRecord fun f => do
    pure { start := ← f.need .start, stop := ← f.need .stop }

inductive TokenField
  | id | start | stop | pos | morph | lemmaForm | dep | head
deriving DecidableEq

/-- The fields of a token, in the order of its array form. -/
def tokenShape : RecordShape TokenField where
  fields := [.id, .start, .stop, .pos, .morph, .lemmaForm, .dep, .head]
  name
    | .id => "id"
    | .start => "start"
    | .stop => "end"
    | .pos => "pos"
    | .morph => "morph"
    | .lemmaForm => "lemma"
    | .dep => "dep"
    | .head => "head"
  Slot
    | .id | .start | .stop => Nat
    | .pos | .morph | .lemmaForm | .dep => Option String
    | .head => Option Nat
  read
    | .id | .start | .stop => readCount
    | .pos | .morph | .lemmaForm | .dep => readOptional readText
    | .head => readOptional readCount
  mayLack _ := false

/-- A token. A part of the analysis that is left out counts as `null`. -/
def Token.read : Node → Reading Token :=
  tokenShape.readRecord fun f => do
    pure {
      id := ← f.need .id
      start := ← f.need .start
      stop := ← f.need .stop
      pos := (f .pos).join
      morph := (f .morph).join
      lemmaForm := (f .lemmaForm).join
      dep := (f .dep).join
      head := (f .head).join }

inductive DocField
  | text | sents | tokens
deriving DecidableEq

/-- The fields of a document, in the order of its array form. Only the text is always there. -/
def docShape : RecordShape DocField where
  fields := [.text, .sents, .tokens]
  name
    | .text => "text"
    | .sents => "sents"
    | .tokens => "tokens"
  Slot
    | .text => String
    | .sents => List Span
    | .tokens => List Token
  read
    | .text => readText
    | .sents => readList Span.read
    | .tokens => readList Token.read
  mayLack
    | .text => false
    | .sents | .tokens => true

def Doc.read : Node → Reading Doc :=
  docShape.readRecord fun f => do
    pure {
      text := ← f.need .text
      sents := (f .sents).getD []
      tokens := (f .tokens).getD [] }

/-- The document that a text holds. -/
def Doc.ofText (text : String) : Reading Doc := readWhole Doc.read text

end WordRecords.Spacy
