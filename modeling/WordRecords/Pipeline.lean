import WordRecords.Document
import WordRecords.Json.Problem
import WordRecords.Spacy.Sentence
import WordRecords.Stanza.Sentence

/-!
# Pipelines

A pipeline analyses texts. For each supported one there are a reader of its output and a profile, which holds the
version and the schema to assume when none is given.
-/

namespace WordRecords

/-- The supported pipelines. -/
inductive Pipeline
  /-- Stanza, which lists the words of every token. -/
  | stanza
  /-- spaCy, which shows them in the lemma only. -/
  | spacy
deriving DecidableEq

/-- What is known about a pipeline. -/
structure Profile where
  /-- What its output looks like. -/
  description : String
  defaultVersion : String
  schema : Schema

/-- Why output of a pipeline could not be read. -/
inductive ReadError
  /-- The text is not what the pipeline writes. -/
  | json (p : Json.Problem)
  /-- The entries make no sentences. -/
  | stanza (p : Stanza.Problem)
  /-- The tokens make no sentences. -/
  | spacy (p : Spacy.Problem)
deriving DecidableEq

namespace Pipeline

def name : Pipeline → String
  | .stanza => "stanza"
  | .spacy => "spacy"

def all : List Pipeline := [.spacy, .stanza]

def ofName? (s : String) : Option Pipeline := all.find? (·.name == s)

def profile : Pipeline → Profile
  | .stanza => ⟨"Stanza to_dict() output with explicit multi-word tokens", "1.9.2", .grouped⟩
  | .spacy => ⟨"spaCy Doc.to_json() output with space-separated multi-word lemmas", "3.7.5", .flat⟩

/-- The sentences of units that the output of a pipeline holds. -/
def read (pipeline : Pipeline) (text : String) : Except ReadError (List UnitSentence) :=
  match pipeline with
  | .stanza => do
    let entries ← (Stanza.entriesOfText text).mapError .json
    (Stanza.readSentences entries).mapError .stanza
  | .spacy => do
    let doc ← (Spacy.Doc.ofText text).mapError .json
    (Spacy.readSentences doc).mapError .spacy

end Pipeline

end WordRecords
