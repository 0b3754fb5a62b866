/-!
# Documents of word records

A document lists the syntactic words of a text as flat records, sentence by sentence. The same sentences can be stored
in two schemas: *grouped*, where every sentence carries a number, or *flat*, where a sentence is a bare list.
`Document.sentences` is what the two have in common, and `Document.withSchema` goes from one to the other.
-/

namespace WordRecords

/-- One syntactic word. -/
structure Record where
  /-- The position of the word in the document. -/
  id : Nat
  pos : String
  /-- The part of speech with the morphological features. -/
  tag : String
  /-- The dependency relation, in lower case. -/
  dep : String
  /-- The position of the governor in the sentence; zero for a root, too. -/
  head : Nat
  /-- The text of the surface unit that the word belongs to. -/
  text : String
  /-- The character offset of that unit. -/
  idx : Nat
  /-- The position of the word in the sentence. -/
  index : Nat
  /-- The lemma, in lower case. -/
  lemmaForm : String
deriving DecidableEq

/-- A numbered sentence. -/
structure Sentence where
  /-- The position of the sentence in the document. -/
  id : Nat
  records : List Record
deriving DecidableEq

/-- The two ways to store sentences. -/
inductive Schema
  /-- Sentences with numbers. -/
  | grouped
  /-- Bare sentences. -/
  | flat
deriving DecidableEq

/-- The sentences of a document, in one of the two ways. -/
inductive Body
  /-- Sentences with numbers. -/
  | grouped (sentences : List Sentence)
  /-- Bare sentences. -/
  | flat (sentences : List (List Record))
deriving DecidableEq

/-- A document: labels, and sentences of records. -/
structure Document where
  /-- What the document is filed under. -/
  labels : List String
  body : Body
deriving DecidableEq

namespace Schema

def all : List Schema := [.grouped, .flat]

def name : Schema → String
  | .grouped => "grouped"
  | .flat => "flat"

def ofName? (s : String) : Option Schema := all.find? (·.name == s)

/-- What is said about a name that no schema has. -/
def unknownMessage (s : String) : String := "unknown schema '" ++ s ++ "' (expected grouped or flat)"

end Schema

namespace Body

def schema : Body → Schema
  | .grouped _ => .grouped
  | .flat _ => .flat

/-- The words of every sentence. -/
def sentences : Body → List (List Record)
  | .grouped sentences => sentences.map Sentence.records
  | .flat sentences => sentences

/-- The body of a schema with given sentences. Sentences are numbered from zero. -/
def ofSentences (schema : Schema) (sentences : List (List Record)) : Body :=
  match schema with
  | .grouped => .grouped (sentences.mapIdx Sentence.mk)
  | .flat => .flat sentences

end Body

namespace Document

def schema (doc : Document) : Schema := doc.body.schema

/-- The words of every sentence. -/
def sentences (doc : Document) : List (List Record) := doc.body.sentences

/-- The words of the document, in order. -/
def records (doc : Document) : List Record := doc.sentences.flatten

def sentenceCount (doc : Document) : Nat := doc.sentences.length

def recordCount (doc : Document) : Nat := doc.records.length

/-- The same labels and sentences in another schema. Sentences are numbered anew. -/
def withSchema (doc : Document) (schema : Schema) : Document :=
  { doc with body := .ofSentences schema doc.sentences }

end Document

theorem Body.schema_ofSentences (s : Schema) (ss : List (List Record)) : (Body.ofSentences s ss).schema = s := by
  cases s <;> rfl

theorem Body.sentences_ofSentences (s : Schema) (ss : List (List Record)) :
    (Body.ofSentences s ss).sentences = ss := by
  cases s with
  | flat => rfl
  | grouped => simp [Body.ofSentences, Body.sentences, List.mapIdx_eq_zipIdx_map, Function.comp_def]

theorem Document.sentences_withSchema (doc : Document) (s : Schema) : (doc.withSchema s).sentences = doc.sentences :=
  Body.sentences_ofSentences s _

end WordRecords
