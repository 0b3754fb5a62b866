import WordRecords.Document
import WordRecords.Limits
import WordRecords.Text.LowerCase

/-!
# Checks of documents

A document can break six rules, one on its sentences and five on its records. `Document.violations` lists every breach:
the sentence numbers first, then the records in order. The number expected of a record is one more than that of the
record before it, so that a gap is reported once.
-/

namespace WordRecords

/-- A breach of a rule. -/
inductive Violation
  /-- The numbers of the records run from zero without gaps. -/
  | idGap (expected found : Nat)
  /-- The numbers of the sentences run from zero without gaps. -/
  | sentenceId (expected found : Nat)
  /-- The index of a record is its position in its sentence. -/
  | index (id expected found : Nat)
  /-- The head of a record is a position in its sentence. -/
  | headOutOfRange (id head length : Nat)
  /-- Lemmas are in lower case. -/
  | lemmaCase (id : Nat) (lemmaForm : String)
  /-- Dependency relations are in lower case. -/
  | depCase (id : Nat) (dep : String)
deriving DecidableEq

def Violation.message : Violation → String
  | .idGap expected found => s!"token id {found} where {expected} was expected"
  | .sentenceId expected found => s!"sentence id {found} where {expected} was expected"
  | .index id expected found => s!"token {id} has index {found}, expected {expected}"
  | .headOutOfRange id head length => s!"token {id} has head {head} outside a sentence of {length} tokens"
  | .lemmaCase id form => s!"token {id} lemma '{form}' is not lower-case"
  | .depCase id dep => s!"token {id} dep '{dep}' is not lower-case"

/-- A record with its place in a document. -/
structure Place where
  record : Record
  /-- Its position in its sentence. -/
  position : Nat
  /-- The number of records of its sentence. -/
  length : Nat

/-- The records of a sentence with their places. -/
def placesOf (sentence : List Record) : List Place :=
  sentence.mapIdx fun position record => ⟨record, position, sentence.length⟩

/-- The number expected after a given one. The greatest count has no successor but itself. -/
def nextId (id : Nat) : Nat := min (id + 1) (countLimit - 1)

/-- The violations of a record where a number is expected of it. -/
def Place.violations (expected : Nat) (p : Place) : List Violation :=
  let r := p.record
  (if r.id = expected then [] else [.idGap expected r.id]) ++
  (if r.index = p.position then [] else [.index r.id p.position r.index]) ++
  (if r.head < p.length then [] else [.headOutOfRange r.id r.head p.length]) ++
  (if Text.IsLowerCase r.lemmaForm then [] else [.lemmaCase r.id r.lemmaForm]) ++
  (if Text.IsLowerCase r.dep then [] else [.depCase r.id r.dep])

/-- The violations of records in document order, where a number is expected of the first. -/
def violationsFrom : Nat → List Place → List Violation
  | _, [] => []
  | expected, p :: later => p.violations expected ++ violationsFrom (nextId p.record.id) later

def Body.sentenceViolations : Body → List Violation
  | .grouped sentences =>
    (sentences.mapIdx fun position s => if s.id = position then [] else [.sentenceId position s.id]).flatten
  | .flat _ => []

/-- All violations of a document. -/
def Document.violations (doc : Document) : List Violation :=
  doc.body.sentenceViolations ++ violationsFrom 0 (doc.sentences.flatMap placesOf)

end WordRecords
