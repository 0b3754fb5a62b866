import WordRecords.Document.Json
import WordRecords.Proofs.Json.RoundTrip
import WordRecords.Proofs.Json.Shape

/-!
# Documents read back

`ofText_render`: a document whose numbers have 64 bits (`InRange`) reads back from its text, in either layout. The text
of a document is the text of a complete value (`Document.InRange.toNode_complete`), and that value is read as the
document (`Document.read_toNode`).

The sentences are read twice: as a value of any shape, which bounds how deep they may be nested, and then as one of the
two bodies. The names of the members keep the bodies apart, also where both would be empty lists.
-/

namespace WordRecords

open Json

/-! ### Numbers in range -/

/-- The numbers of a record have 64 bits. -/
structure Record.InRange (r : Record) : Prop where
  id : r.id < countLimit
  head : r.head < countLimit
  idx : r.idx < countLimit
  index : r.index < countLimit

/-- The numbers of a sentence have 64 bits, its own among them. -/
structure Sentence.InRange (s : Sentence) : Prop where
  id : s.id < countLimit
  records : ∀ r ∈ s.records, r.InRange

/-- The numbers of a body have 64 bits. -/
def Body.InRange : Body → Prop
  | .grouped sentences => ∀ s ∈ sentences, s.InRange
  | .flat sentences => ∀ s ∈ sentences, ∀ r ∈ s, r.InRange

/-- The numbers of a document have 64 bits. -/
def Document.InRange (doc : Document) : Prop := doc.body.InRange

theorem Record.inRange_iff (r : Record) :
    r.InRange ↔ r.id < countLimit ∧ r.head < countLimit ∧ r.idx < countLimit ∧ r.index < countLimit :=
  ⟨fun h => ⟨h.id, h.head, h.idx, h.index⟩, fun h => ⟨h.1, h.2.1, h.2.2.1, h.2.2.2⟩⟩

theorem Sentence.inRange_iff (s : Sentence) : s.InRange ↔ s.id < countLimit ∧ ∀ r ∈ s.records, r.InRange :=
  ⟨fun h => ⟨h.id, h.records⟩, fun h => ⟨h.1, h.2⟩⟩

instance (r : Record) : Decidable r.InRange := decidable_of_iff _ r.inRange_iff.symm

instance (s : Sentence) : Decidable s.InRange := decidable_of_iff _ s.inRange_iff.symm

instance (b : Body) : Decidable b.InRange :=
  match b with
  | .grouped sentences => inferInstanceAs (Decidable (∀ s ∈ sentences, s.InRange))
  | .flat sentences => inferInstanceAs (Decidable (∀ s ∈ sentences, ∀ r ∈ s, r.InRange))

instance (doc : Document) : Decidable doc.InRange := inferInstanceAs (Decidable doc.body.InRange)

/-! ### Texts of documents -/

theorem Record.InRange.toNode_complete {r : Record} (h : r.InRange) : r.toNode.Complete := by
  refine .ofMembers ?_
  simp only [List.forall_mem_cons, List.not_mem_nil, false_implies, implies_true, and_true, ofString_complete,
    ofNat_complete h.id, ofNat_complete h.head, ofNat_complete h.idx, ofNat_complete h.index]

theorem recordsNode_complete {records : List Record} (h : ∀ r ∈ records, r.InRange) :
    (recordsNode records).Complete :=
  .ofList (List.forall_mem_map.2 fun r hr => (h r hr).toNode_complete)

theorem Sentence.InRange.toNode_complete {s : Sentence} (h : s.InRange) : s.toNode.Complete := by
  refine .ofMembers ?_
  simp only [List.forall_mem_cons, List.not_mem_nil, false_implies, implies_true, and_true, ofNat_complete h.id,
    recordsNode_complete h.records]

theorem Body.InRange.member_complete {b : Body} (h : b.InRange) : b.member.2.Complete := by
  cases b with
  | grouped sentences => exact .ofList (List.forall_mem_map.2 fun s hs => (h s hs).toNode_complete)
  | flat sentences => exact .ofList (List.forall_mem_map.2 fun s hs => recordsNode_complete (h s hs))

theorem Document.InRange.toNode_complete {doc : Document} (h : doc.InRange) : doc.toNode.Complete := by
  have hlabels : (Node.ofList (doc.labels.map Node.ofString)).Complete :=
    .ofList (List.forall_mem_map.2 fun s _ => ofString_complete s)
  refine .ofMembers ?_
  simp only [List.forall_mem_cons, List.not_mem_nil, false_implies, implies_true, and_true, hlabels,
    Body.InRange.member_complete h]

/-! ### Reading records and sentences -/

/-- What a record has in a field. -/
def Record.slot (r : Record) : (i : RecordField) → recordShape.Slot i
  | .id => r.id
  | .pos => r.pos
  | .tag => r.tag
  | .dep => r.dep
  | .head => r.head
  | .text => r.text
  | .idx => r.idx
  | .index => r.index
  | .lemmaForm => r.lemmaForm

/-- How a field of a record is written. -/
def Record.fieldNode (r : Record) : RecordField → Node
  | .id => .ofNat r.id
  | .pos => .ofString r.pos
  | .tag => .ofString r.tag
  | .dep => .ofString r.dep
  | .head => .ofNat r.head
  | .text => .ofString r.text
  | .idx => .ofNat r.idx
  | .index => .ofNat r.index
  | .lemmaForm => .ofString r.lemmaForm

theorem recordShape_distinct : recordShape.Distinct where
  names := by decide
  mem i := by cases i <;> decide

theorem Record.toNode_eq (r : Record) :
    r.toNode = .ofMembers (recordShape.fields.map fun i => (recordShape.name i, r.fieldNode i)) := rfl

theorem Record.read_toNode {r : Record} (h : r.InRange) : Record.read r.toNode = .ok r := by
  have hread : ∀ i, recordShape.read i (r.fieldNode i) = .ok (r.slot i) := by
    intro i
    cases i with
    | id => exact readCount_ofNat h.id
    | head => exact readCount_ofNat h.head
    | idx => exact readCount_ofNat h.idx
    | index => exact readCount_ofNat h.index
    | pos | tag | dep | text | lemmaForm => exact readText_ofString _
  rw [Record.read, Record.toNode_eq, RecordShape.readRecord_ofMembers recordShape_distinct hread]
  rfl

theorem readRecords_recordsNode {records : List Record} (h : ∀ r ∈ records, r.InRange) :
    readList Record.read (recordsNode records) = .ok records :=
  readList_ofList (List.forall₂_same.2 fun r hr => Record.read_toNode (h r hr))

/-- What a sentence has in a field. -/
def Sentence.slot (s : Sentence) : (i : SentenceField) → sentenceShape.Slot i
  | .id => s.id
  | .records => s.records

/-- How a field of a sentence is written. -/
def Sentence.fieldNode (s : Sentence) : SentenceField → Node
  | .id => .ofNat s.id
  | .records => recordsNode s.records

theorem sentenceShape_distinct : sentenceShape.Distinct where
  names := by decide
  mem i := by cases i <;> decide

theorem Sentence.toNode_eq (s : Sentence) :
    s.toNode = .ofMembers (sentenceShape.fields.map fun i => (sentenceShape.name i, s.fieldNode i)) := rfl

theorem Sentence.read_toNode {s : Sentence} (h : s.InRange) : Sentence.read s.toNode = .ok s := by
  have hread : ∀ i, sentenceShape.read i (s.fieldNode i) = .ok (s.slot i) := by
    intro i
    cases i with
    | id => exact readCount_ofNat h.id
    | records => exact readRecords_recordsNode h.records
  rw [Sentence.read, Sentence.toNode_eq, RecordShape.readRecord_ofMembers sentenceShape_distinct hread]
  rfl

/-! ### Reading documents -/

theorem Body.ofMembers?_member {b : Body} (h : b.InRange) : Body.ofMembers? [b.member] = some b := by
  cases b with
  | grouped sentences =>
    have hread : readList Sentence.read (.ofList (sentences.map Sentence.toNode)) = .ok sentences :=
      readList_ofList (List.forall₂_same.2 fun s hs => Sentence.read_toNode (h s hs))
    have hsole : soleMember? "sentences" (readList Sentence.read) [(Body.grouped sentences).member] = some sentences :=
      congrArg Except.toOption hread
    rw [Body.ofMembers?, hsole]
  | flat sentences =>
    have hread : readList (readList Record.read) (.ofList (sentences.map recordsNode)) = .ok sentences :=
      readList_ofList (List.forall₂_same.2 fun s hs => readRecords_recordsNode (h s hs))
    have hother : soleMember? "sentences" (readList Sentence.read) [(Body.flat sentences).member] = none := rfl
    have hsole : soleMember? "tokens" (readList (readList Record.read)) [(Body.flat sentences).member] =
        some sentences :=
      congrArg Except.toOption hread
    rw [Body.ofMembers?, hother, hsole]
    rfl

theorem Record.readFault?_toNode (r : Record) {depth : Nat} (hd : depth < depthLimit) :
    r.toNode.readFault? depth = none := by
  rw [Record.toNode_eq]
  refine readFault?_ofMembers hd (List.forall_mem_map.2 fun i _ => ?_)
  cases i <;> rfl

theorem readFault?_recordsNode (records : List Record) {depth : Nat} (hd : depth + 1 < depthLimit) :
    (recordsNode records).readFault? depth = none :=
  readFault?_ofList (by omega) (List.forall_mem_map.2 fun r _ => r.readFault?_toNode hd)

theorem Sentence.readFault?_toNode (s : Sentence) {depth : Nat} (hd : depth + 2 < depthLimit) :
    s.toNode.readFault? depth = none := by
  rw [Sentence.toNode_eq]
  refine readFault?_ofMembers (by omega) (List.forall_mem_map.2 fun i _ => ?_)
  cases i with
  | id => rfl
  | records => exact readFault?_recordsNode s.records hd

theorem Body.readFault?_member (b : Body) : b.member.2.readFault? 1 = none := by
  cases b with
  | grouped sentences =>
    exact readFault?_ofList (by decide) (List.forall_mem_map.2 fun s _ => s.readFault?_toNode (by decide))
  | flat sentences =>
    exact readFault?_ofList (by decide) (List.forall_mem_map.2 fun s _ => readFault?_recordsNode s (by decide))

theorem Body.member_ne_labels (b : Body) : b.member.1 ≠ "labels" := by
  cases b with
  | grouped _ => exact show "sentences" ≠ "labels" by decide
  | flat _ => exact show "tokens" ≠ "labels" by decide

theorem Document.read_toNode {doc : Document} (h : doc.InRange) : Document.read doc.toNode = .ok doc := by
  have hlabels : readList readText (.ofList (doc.labels.map Node.ofString)) = .ok doc.labels :=
    readList_ofList (List.forall₂_same.2 fun s _ => readText_ofString s)
  have hmembers : Document.readMembers none
      [(some "labels", .ofList (doc.labels.map Node.ofString)), (some doc.body.member.1, doc.body.member.2)] =
        .ok (some doc.labels, [doc.body.member]) := by
    simp only [Document.readMembers, if_true, Option.isSome_none, Bool.false_eq_true, if_false, hlabels,
      if_neg doc.body.member_ne_labels, doc.body.readFault?_member]
    rfl
  refine bind_eq_ok_iff.2 ⟨_, hmembers, bind_eq_ok_iff.2 ⟨(), rfl, ?_⟩⟩
  simp only [Body.ofMembers?_member h]
  rfl

/-- **A document reads back from its text**, with its schema, in either layout. -/
theorem Document.ofText_render {doc : Document} (h : doc.InRange) (layout : Layout) :
    Document.ofText (doc.render layout) = .ok doc := by
  rw [Document.ofText, readWhole, Document.render]
  simp only [h.toNode_complete.outline_eq layout, read_toNode h]
  rfl

/-- A document with an empty sentence, texts that need escapes and the largest count. -/
def escapedDocument : Document where
  labels := ["", "a\"b\\c/d\n\x01\x1f\x7f", "€ 😀"]
  body := .grouped [⟨18446744073709551615, []⟩, ⟨0, [{
    id := 18446744073709551615, pos := "X", tag := "X|\t", dep := "dep", head := 7, text := "]\x7d,:", idx := 0
    index := 0, lemmaForm := "\x08\x0c\r" }]⟩]

theorem escapedDocument_ofText :
    escapedDocument.InRange ∧ Document.ofText (escapedDocument.render .indented) = .ok escapedDocument := by
  have h : escapedDocument.InRange := by decide
  exact ⟨h, Document.ofText_render h .indented⟩

end WordRecords
