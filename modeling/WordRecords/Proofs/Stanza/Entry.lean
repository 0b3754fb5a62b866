import WordRecords.Proofs.Json.Shape
import WordRecords.Stanza.Entry

/-!
# Numbers of entries

The identifications and offsets of entries that were read from a text are counts: they have 64 bits
(`entriesOfText_inRange`).
-/

namespace WordRecords.Stanza

open Json

/-- The numbers of an identification have 64 bits. -/
def NativeId.InRange : NativeId → Prop
  | .number n => n < countLimit
  | .list ns => ∀ n ∈ ns, n < countLimit
  | .text _ => True

/-- The numbers in the identification and the offset of an entry have 64 bits. -/
structure Entry.InRange (e : Entry) : Prop where
  id : e.id.InRange
  startChar : ∀ n ∈ e.startChar, n < countLimit

theorem NativeId.read_inRange {node : Node} {id : NativeId} (h : NativeId.read node = .ok id) : id.InRange := by
  rw [NativeId.read] at h
  split at h
  · cases h
  · split at h
    · rename_i hn
      cases h
      exact readCount_lt (eq_ok_of_toOption hn)
    · rename_i hns
      cases h
      exact readList_forall (fun _ _ => readCount_lt) (eq_ok_of_toOption hns)
    · cases h
      trivial
    · cases h

/-- What the readers of the fields see to. -/
def fieldInRange : (i : EntryField) → entryShape.Slot i → Prop
  | .id, id => NativeId.InRange id
  | .startChar, n? => ∀ n ∈ (show Option Nat from n?), n < countLimit
  | .head, _ | .text, _ | .lemmaForm, _ | .upos, _ | .feats, _ | .deprel, _ | .misc, _ => True

theorem fieldInRange_of_read (i : EntryField) (node : Node) (v : entryShape.Slot i)
    (h : entryShape.read i node = .ok v) : fieldInRange i v := by
  cases i with
  | id => exact NativeId.read_inRange h
  | startChar => exact readOptional_forall (fun _ _ => readCount_lt) h
  | head | text | lemmaForm | upos | feats | deprel | misc => trivial

theorem Entry.read_inRange {node : Node} {e : Entry} (h : Entry.read node = .ok e) : e.InRange := by
  obtain ⟨filling, hall, h⟩ := RecordShape.readRecord_forall fieldInRange_of_read h
  obtain ⟨id, hid, h⟩ := bind_eq_ok_iff.1 h
  cases h
  constructor
  · exact hall.need hid
  · intro n hn
    exact hall .startChar (some n) (Option.join_eq_some_iff.1 hn) n rfl

/-- Entries of a text have numbers in range. -/
theorem entriesOfText_inRange {text : String} {sentences : List (List Entry)}
    (h : entriesOfText text = .ok sentences) : ∀ es ∈ sentences, ∀ e ∈ es, e.InRange := by
  obtain ⟨node, h⟩ := exists_of_readWhole h
  exact readList_forall (fun _ _ => readList_forall fun _ _ => Entry.read_inRange) h

end WordRecords.Stanza
