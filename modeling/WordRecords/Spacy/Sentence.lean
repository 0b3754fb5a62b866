import WordRecords.Spacy.Doc
import WordRecords.Steps
import WordRecords.SurfaceUnit
import WordRecords.Limits
import WordRecords.Text.Slice

/-!
# Sentences of spaCy output

The tokens are put into sentences in one pass over tokens and spans: a token goes into the first span not yet left
behind that ends after the token's start, and the spans before it are left behind. Every span makes a sentence, an
empty one if no token goes into it. Every token makes a unit, whose text is cut out of the document's text.
-/

namespace WordRecords.Spacy

/-- Why tokens make no sentences. -/
inductive Problem
  /-- A token starts behind every span that is left. -/
  | outsideSentences (id start : Nat)
  /-- The offsets of a token are no slice of the text. -/
  | outsideText (id start stop : Nat)
  /-- A token lacks a part of its analysis. -/
  | noField (text field : String)
deriving DecidableEq

def Problem.message : Problem → String
  | .outsideSentences id start => s!"token {id} at offset {start} is outside every sentence"
  | .outsideText id start stop => s!"token {id} span {start}..{stop} is outside the text"
  | .noField text field => s!"token '{text}' has no {field}"

/-- A part of the analysis that a token must have. -/
def need {α : Type} (text field : String) : Option α → Except Problem α
  | some value => .ok value
  | none => .error (.noField text field)

/-- The unit of a token with a given text, in a sentence that begins with a given token. Empty features are no
features. -/
def Token.toUnit (t : Token) (text : String) (sentenceStart : Nat) : Except Problem SurfaceUnit := do
  let head ← need text "head" t.head
  let pos ← need text "pos" t.pos
  let dep ← need text "dep" t.dep
  let lemmaForm ← need text "lemma" t.lemmaForm
  pure {
    text := text
    offset := ⟨some t.start, none⟩
    decomposition := .lemmaSeparated {
      nativeId := t.id
      pos := pos
      features := t.morph.filter fun features => features ≠ ""
      dep := dep
      head := .absolute head sentenceStart
      lemmaForm := lemmaForm } }

/-- How a token is cut out of the text: the slice between two offsets. -/
abbrev Cut := Nat → Nat → Option String

def Token.textBy (cut : Cut) (t : Token) : Except Problem String :=
  match cut t.start t.stop with
  | some text => .ok text
  | none => .error (.outsideText t.id t.start t.stop)

/-- The sentence that is being filled: its units, and its first token once there is one. -/
structure Group where
  units : UnitSentence
  /-- The number of the first token. -/
  start : Option Nat

def Group.empty : Group := ⟨[], none⟩

/-- The sentence with one more token. -/
def Group.push (cut : Cut) (g : Group) (t : Token) : Except Problem Group := do
  let text ← t.textBy cut
  let start := g.start.getD t.id
  let unit ← t.toUnit text start
  pure ⟨g.units ++ [unit], some start⟩

/-- The sentences of the spans that are left, where the first is being filled, and of the tokens that are left. -/
def groupTokens (cut : Cut) : List Span → Group → List Token → Except Problem (List UnitSentence)
  | [], _, [] => .ok []
  | [], _, t :: _ => .error (.outsideSentences t.id t.start)
  | _ :: later, g, [] => .ok (g.units :: later.map fun _ => [])
  | span :: later, g, t :: tokens =>
    if span.stop ≤ t.start then
      match groupTokens cut later .empty (t :: tokens) with
      | .error p => .error p
      | .ok sentences => .ok (g.units :: sentences)
    else
      match g.push cut t with
      | .error p => .error p
      | .ok g => groupTokens cut (span :: later) g tokens
termination_by spans _ tokens => spans.length + tokens.length

/-- The spans of a document. Without any, all its tokens are one sentence, whose span ends at the greatest count. -/
def Doc.spans (doc : Doc) : List Span :=
  if doc.sents = [] ∧ doc.tokens ≠ [] then [⟨0, countLimit - 1⟩] else doc.sents

def readSentences (doc : Doc) : Except Problem (List UnitSentence) :=
  let index := Text.CharIndex.ofString doc.text
  groupTokens (index.slice? doc.text) doc.spans .empty doc.tokens

end WordRecords.Spacy
