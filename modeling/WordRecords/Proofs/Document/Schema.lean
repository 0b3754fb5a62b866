import WordRecords.Proofs.Document.Json

/-!
# Documents in another schema

Of all schemas that a document goes through only the last one shows (`Document.withSchema_withSchema`).

A document that was read from a text has numbers of 64 bits (`Document.ofText_inRange`), and so it has in any other
schema, as long as its sentences can be counted (`Document.InRange.withSchema`). The text of the other schema therefore
reads back.
-/

namespace WordRecords

open Json

/-! ### Numbers of what was read -/

/-- What the readers of a record's fields see to. -/
def recordFieldInRange : (i : RecordField) → recordShape.Slot i → Prop
  | .id, n => (show Nat from n) < countLimit
  | .head, n => (show Nat from n) < countLimit
  | .idx, n => (show Nat from n) < countLimit
  | .index, n => (show Nat from n) < countLimit
  | .pos, _ | .tag, _ | .dep, _ | .text, _ | .lemmaForm, _ => True

theorem recordFieldInRange_of_read (i : RecordField) (node : Node) (v : recordShape.Slot i)
    (h : recordShape.read i node = .ok v) : recordFieldInRange i v := by
  cases i with
  | id | head | idx | index => exact readCount_lt h
  | pos | tag | dep | text | lemmaForm => trivial

theorem Record.read_inRange {node : Node} {r : Record} (h : Record.read node = .ok r) : r.InRange := by
  obtain ⟨filling, hall, h⟩ := RecordShape.readRecord_forall recordFieldInRange_of_read h
  simp only [bind_eq_ok_iff] at h
  obtain ⟨id, hid, pos, -, tag, -, dep, -, head, hhead, text, -, idx, hidx, index, hindex, lemmaForm, -, h⟩ := h
  cases h
  exact ⟨hall.need hid, hall.need hhead, hall.need hidx, hall.need hindex⟩

/-- What the readers of a sentence's fields see to. -/
def sentenceFieldInRange : (i : SentenceField) → sentenceShape.Slot i → Prop
  | .id, n => (show Nat from n) < countLimit
  | .records, rs => ∀ r ∈ (show List Record from rs), r.InRange

theorem sentenceFieldInRange_of_read (i : SentenceField) (node : Node) (v : sentenceShape.Slot i)
    (h : sentenceShape.read i node = .ok v) : sentenceFieldInRange i v := by
  cases i with
  | id => exact readCount_lt h
  | records => exact readList_forall (fun _ _ => Record.read_inRange) h

theorem Sentence.read_inRange {node : Node} {s : Sentence} (h : Sentence.read node = .ok s) : s.InRange := by
  obtain ⟨filling, hall, h⟩ := RecordShape.readRecord_forall sentenceFieldInRange_of_read h
  simp only [bind_eq_ok_iff] at h
  obtain ⟨id, hid, records, hrecords, h⟩ := h
  cases h
  exact ⟨hall.need hid, hall.need hrecords⟩

theorem exists_of_soleMember? {α : Type} {name : String} {read : Node → Reading α} {members : List (String × Node)}
    {a : α} (h : soleMember? name read members = some a) : ∃ node, read node = .ok a := by
  rw [soleMember?.eq_def] at h
  split at h
  · exact ⟨_, eq_ok_of_toOption h⟩
  · cases h

theorem Body.ofMembers?_inRange {members : List (String × Node)} {b : Body} (h : Body.ofMembers? members = some b) :
    b.InRange := by
  rw [Body.ofMembers?] at h
  split at h
  · rename_i sentences hs
    cases h
    obtain ⟨node, hnode⟩ := exists_of_soleMember? hs
    exact readList_forall (fun _ _ => Sentence.read_inRange) hnode
  · obtain ⟨sentences, hs, rfl⟩ := Option.map_eq_some_iff.1 h
    obtain ⟨node, hnode⟩ := exists_of_soleMember? hs
    exact readList_forall (fun _ _ => readList_forall fun _ _ => Record.read_inRange) hnode

namespace Document

theorem read_inRange {node : Node} {doc : Document} (h : Document.read node = .ok doc) : doc.InRange := by
  cases node with
  | object members stop =>
    obtain ⟨⟨labels?, others⟩, -, h⟩ := bind_eq_ok_iff.1 h
    obtain ⟨-, -, h⟩ := bind_eq_ok_iff.1 h
    cases labels? with
    | none => cases h
    | some labels =>
      simp only at h
      split at h
      · rename_i body hbody
        cases h
        exact Body.ofMembers?_inRange hbody
      · cases h
  | scalar _ | array _ _ | broken _ =>
    obtain ⟨_, -, h⟩ := bind_eq_ok_iff.1 h
    cases h

/-- The numbers of a document that was read have 64 bits. -/
theorem ofText_inRange {text : String} {doc : Document} (h : Document.ofText text = .ok doc) : doc.InRange := by
  obtain ⟨node, h⟩ := exists_of_readWhole h
  exact read_inRange h

/-! ### Going through schemas -/

theorem withSchema_withSchema (doc : Document) (s s' : Schema) :
    (doc.withSchema s).withSchema s' = doc.withSchema s' := by
  rw [withSchema, sentences_withSchema]
  rfl

theorem sentenceCount_withSchema (doc : Document) (s : Schema) :
    (doc.withSchema s).sentenceCount = doc.sentenceCount := by
  rw [sentenceCount, sentences_withSchema, sentenceCount]

theorem InRange.records {doc : Document} (h : doc.InRange) : ∀ s ∈ doc.sentences, ∀ r ∈ s, r.InRange := by
  obtain ⟨labels, body⟩ := doc
  cases body with
  | grouped ss => exact List.forall_mem_map.2 fun s hs => (h s hs).records
  | flat ss => exact h

theorem InRange.withSchema {doc : Document} (h : doc.InRange) (hn : doc.sentenceCount ≤ countLimit) (s : Schema) :
    (doc.withSchema s).InRange := by
  cases s with
  | flat => exact h.records
  | grouped =>
    intro s hs
    obtain ⟨i, hi, rfl⟩ := List.mem_mapIdx.1 hs
    exact ⟨Nat.lt_of_lt_of_le hi hn, h.records _ (List.getElem_mem hi)⟩

end Document

end WordRecords
