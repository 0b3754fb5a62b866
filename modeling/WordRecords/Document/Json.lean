import WordRecords.Document
import WordRecords.Json.Render
import WordRecords.Json.Shape

/-!
# Documents as JSON

A document is written as an object: its labels, then its sentences under `sentences` if they are numbered, under
`tokens` if they are not. `Document.render` writes it, with a line feed at the end, and `Document.ofText` reads it.

What decides the schema of a text is the member `sentences` if there is exactly one of the right shape, else the member
`tokens` in the same way. Other members are read, so that they must be sound, but have no influence.
-/

namespace WordRecords

open Json

/-! ### Writing -/

/-- A record as a value. -/
def Record.toNode (r : Record) : Node :=
  .ofMembers [
    ("id", .ofNat r.id), ("pos", .ofString r.pos), ("tag", .ofString r.tag), ("dep", .ofString r.dep),
    ("head", .ofNat r.head), ("text", .ofString r.text), ("idx", .ofNat r.idx), ("index", .ofNat r.index),
    ("lemma", .ofString r.lemmaForm)]

/-- A list of records as a value. -/
def recordsNode (records : List Record) : Node := .ofList (records.map Record.toNode)

/-- A numbered sentence as a value. -/
def Sentence.toNode (s : Sentence) : Node :=
  .ofMembers [("id", .ofNat s.id), ("tokens", recordsNode s.records)]

/-- The member that holds the sentences. -/
def Body.member : Body → String × Node
  | .grouped sentences => ("sentences", .ofList (sentences.map Sentence.toNode))
  | .flat sentences => ("tokens", .ofList (sentences.map recordsNode))

/-- A document as a value. -/
def Document.toNode (doc : Document) : Node :=
  .ofMembers [("labels", .ofList (doc.labels.map Node.ofString)), doc.body.member]

def Document.render (layout : Layout) (doc : Document) : String :=
  String.ofList (doc.toNode.render layout 0 ++ ['\n'])

/-! ### Reading -/

inductive RecordField
  | id | pos | tag | dep | head | text | idx | index | lemmaForm
deriving DecidableEq

/-- The fields of a record, in the order of its array form. -/
def recordShape : RecordShape RecordField where
  fields := [.id, .pos, .tag, .dep, .head, .text, .idx, .index, .lemmaForm]
  name
    | .id => "id"
    | .pos => "pos"
    | .tag => "tag"
    | .dep => "dep"
    | .head => "head"
    | .text => "text"
    | .idx => "idx"
    | .index => "index"
    | .lemmaForm => "lemma"
  Slot
    | .id | .head | .idx | .index => Nat
    | .pos | .tag | .dep | .text | .lemmaForm => String
  read
    | .id | .head | .idx | .index => readCount
    | .pos | .tag | .dep | .text | .lemmaForm => readText
  mayLack _ := false

def Record.read : Node → Reading Record :=
  recordShape.readRecord fun f => do
    pure {
      id := ← f.need .id
      pos := ← f.need .pos
      tag := ← f.need .tag
      dep := ← f.need .dep
      head := ← f.need .head
      text := ← f.need .text
      idx := ← f.need .idx
      index := ← f.need .index
      lemmaForm := ← f.need .lemmaForm }

inductive SentenceField
  | id | records
deriving DecidableEq

/-- The fields of a numbered sentence, in the order of its array form. -/
def sentenceShape : RecordShape SentenceField where
  fields := [.id, .records]
  name
    | .id => "id"
    | .records => "tokens"
  Slot
    | .id => Nat
    | .records => List Record
  read
    | .id => readCount
    | .records => readList Record.read
  mayLack _ := false

/-- A numbered sentence. -/
def Sentence.read : Node → Reading Sentence :=
  sentenceShape.readRecord fun f => do
    pure { id := ← f.need .id, records := ← f.need .records }

/-- What a member says if it is there exactly once and has the right shape. -/
def soleMember? {α : Type} (name : String) (read : Node → Reading α) (members : List (String × Node)) : Option α :=
  match members.filter (·.1 == name) with
  | [(_, node)] => (read node).toOption
  | _ => none

/-- The sentences that the members of a document other than its labels hold. -/
def Body.ofMembers? (members : List (String × Node)) : Option Body :=
  match soleMember? "sentences" (readList Sentence.read) members with
  | some sentences => some (.grouped sentences)
  | none => (soleMember? "tokens" (readList (readList Record.read)) members).map .flat

/-- Reads the members of a document in text order: its labels, and the outlines of all others. -/
def Document.readMembers (labels : Option (List String)) :
    List (Option String × Node) → Reading (Option (List String) × List (String × Node))
  | [] => .ok (labels, [])
  | (none, _) :: _ => .error (.fault .malformed)
  | (some name, node) :: rest =>
    if name = "labels" then
      if labels.isSome then .error (.mismatch (.duplicateField name))
      else do
        let read ← readList readText node
        Document.readMembers (some read) rest
    else
      match node.readFault? 1 with
      | some f => .error (.fault f)
      | none => do
        let (labels, others) ← Document.readMembers labels rest
        pure (labels, (name, node) :: others)

def Document.read : Node → Reading Document
  | .object members stop => do
    let (labels, others) ← Document.readMembers none members
    readEnd stop
    match labels with
    | none => throw (.mismatch (.missingField "labels"))
    | some labels =>
      match Body.ofMembers? others with
      | some body => pure ⟨labels, body⟩
      | none => throw (.mismatch (.noAlternative "DocumentBody"))
  | node => do
    let _ ← readScalar node
    throw (.mismatch .invalidType)

/-- The document that a text holds. -/
def Document.ofText (text : String) : Reading Document := readWhole Document.read text

end WordRecords
