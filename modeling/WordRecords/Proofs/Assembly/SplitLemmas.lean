import WordRecords.Proofs.Assembly.Records
import WordRecords.Proofs.Text.LowerCase.Spaces

/-!
# Records of split lemmas

A unit whose lemma lists several words has one record more than its lemma has spaces. The lemmas of these records make
up the lower-case form of the whole lemma, and the records agree in all else but their numbers (`SplitsLemma`).
`assemble_lemmaSeparated` says where such records stand in an assembled document: behind those of the units before
theirs, and before those of the units behind.

Assembly lower-cases every part of a lemma by itself. That the parts of the lower-cased lemma come out is a fact about
texts (`Text.splitFields_lowerCase`).
-/

namespace WordRecords

/-- The records are those of a unit with a lemma that is split at its spaces. -/
structure SplitsLemma (unit : SurfaceUnit) (word : Word) (rs : List Record) : Prop where
  /-- There is one record more than there are spaces. -/
  length : rs.length = word.lemmaForm.toList.count ' ' + 1
  /-- No record has a space in its lemma. -/
  spaceless : ∀ r ∈ rs, ' ' ∉ r.lemmaForm.toList
  /-- The lemmas of the records, with single spaces between them, are the lower-case form of the whole lemma. -/
  joined : " ".intercalate (rs.map Record.lemmaForm) = Text.lowerCase word.lemmaForm
  /-- All records have the analysis of the word, and the text and the offset of the unit. -/
  shared : ∃ idx, unit.offset.Gives idx ∧ ∀ r ∈ rs,
    r.pos = word.pos ∧ r.tag = composeTag word.pos word.features ∧ r.dep = Text.lowerCase word.dep ∧
      r.head = word.head.rebase ∧ r.text = unit.text ∧ r.idx = idx

/-- Records that show the parts of a lemma one by one. -/
theorem splitsLemma_of_shows {unit : SurfaceUnit} {word : Word} {rs : List Record} (hu : unit.Located)
    (h : List.Forall₂ (fun segment r => Record.Shows r unit ⟨word, segment⟩) (Text.splitFields ' ' word.lemmaForm) rs) :
    SplitsLemma unit word rs := by
  -- the parts of the lower-case form are the lower-case forms of the parts
  have hlemmas : rs.map Record.lemmaForm = Text.splitFields ' ' (Text.lowerCase word.lemmaForm) := by
    rw [Text.splitFields_lowerCase]
    exact (forall₂_eq_iff.1 (h.imp fun _ _ hs => hs.lemmaForm.symm)).symm
  have hspace : " ".toList = [' '] := by decide
  constructor
  case length => rw [← h.length_eq, Text.splitFields, List.length_map, Text.length_fields]
  case spaceless =>
    intro r hr
    have hpart : r.lemmaForm ∈ rs.map Record.lemmaForm := List.mem_map_of_mem hr
    rw [hlemmas] at hpart
    exact Text.not_mem_of_mem_splitFields hpart
  case joined => rw [hlemmas, Text.intercalate_splitFields hspace]
  case shared =>
    obtain ⟨idx, hidx⟩ := hu
    refine ⟨idx, hidx, fun r hr => ?_⟩
    obtain ⟨segment, -, hs⟩ := exists_of_mem_right h hr
    exact ⟨hs.pos, hs.tag, hs.dep, hs.head, hs.text, hs.idx.unique hidx⟩

/-! ### Records of one unit among others -/

theorem length_wordsOf (units : UnitSentence) : (wordsOf units).length = (flatWordsOf units).length := by
  simp [wordsOf, flatWordsOf, List.length_flatMap]

theorem wordsOf_append_cons (before after : UnitSentence) (unit : SurfaceUnit) :
    wordsOf (before ++ unit :: after) =
      wordsOf before ++ (unit.flatWords.map (fun w => (unit, w)) ++ wordsOf after) := by
  rw [wordsOf, List.flatMap_append, List.flatMap_cons]
  rfl

/-- The records of a unit stand between those of the units before it and those of the units behind it. -/
theorem Lists.exists_split {start : Nat} {before after : UnitSentence} {unit : SurfaceUnit} {rs : List Record}
    (h : Lists start (before ++ unit :: after) rs) :
    ∃ front own behind, rs = front ++ own ++ behind ∧ front.length = (flatWordsOf before).length ∧
      behind.length = (flatWordsOf after).length ∧
        List.Forall₂ (fun w r => Record.Shows r unit w) unit.flatWords own := by
  have hshows := h.shows
  rw [wordsOf_append_cons] at hshows
  obtain ⟨front, later, hfront, hlater, rfl⟩ := exists_append_of_forall₂ hshows
  obtain ⟨own, behind, hown, hbehind, rfl⟩ := exists_append_of_forall₂ hlater
  refine ⟨front, own, behind, (List.append_assoc _ _ _).symm, ?_, ?_, List.forall₂_map_left_iff.1 hown⟩
  · rw [← hfront.length_eq, length_wordsOf]
  · rw [← hbehind.length_eq, length_wordsOf]

theorem flatWords_of_lemmaSeparated {unit : SurfaceUnit} {word : Word} (h : unit.decomposition = .lemmaSeparated word) :
    unit.flatWords = (Text.splitFields ' ' word.lemmaForm).map fun segment => ⟨word, segment⟩ := by
  rw [SurfaceUnit.flatWords, h]

/-- **Splitting and lower-casing a lemma commute**, in every document whose units all have offsets. -/
theorem assemble_lemmaSeparated (schema : Schema) (labels : List String) {sentences : List UnitSentence}
    (h : ∀ units ∈ sentences, ∀ unit ∈ units, unit.Located) :
    ∃ doc, assemble schema labels sentences = .ok doc ∧
      ∀ (i : Nat) (before after : UnitSentence) (unit : SurfaceUnit) (word : Word),
        sentences[i]? = some (before ++ unit :: after) → unit.decomposition = .lemmaSeparated word →
          ∃ front own behind, doc.sentences[i]? = some (front ++ own ++ behind) ∧
            front.length = (flatWordsOf before).length ∧ behind.length = (flatWordsOf after).length ∧
              SplitsLemma unit word own := by
  obtain ⟨records, hrecords⟩ := exists_assembleSentences_iff.2 h
  refine ⟨_, assemble_eq_ok_iff.2 ⟨records, hrecords, rfl⟩, fun i before after unit word hi hword => ?_⟩
  have hunit : unit.Located :=
    h _ (List.mem_of_getElem? hi) unit (List.mem_append_right before List.mem_cons_self)
  have hlen : i < records.length := by
    rw [← (records_of_assembleSentences hrecords).length_eq]
    exact (List.getElem?_eq_some_iff.1 hi).1
  obtain ⟨front, own, behind, hsplit, hfront, hbehind, hown⟩ :=
    (lists_of_assembleSentences hrecords hi (List.getElem?_eq_getElem hlen)).exists_split
  rw [flatWords_of_lemmaSeparated hword, List.forall₂_map_left_iff] at hown
  refine ⟨front, own, behind, ?_, hfront, hbehind, splitsLemma_of_shows hunit hown⟩
  rw [← hsplit, ← List.getElem?_eq_getElem hlen]
  exact congrArg (fun ss : List (List Record) => ss[i]?) (Body.sentences_ofSentences schema records)

/-- A word whose lemma has a sigma on either side of two spaces, and ends in a space. -/
def sigmaWord : Word := ⟨4, "NOUN", some "Case=Nom", "OBL", .absolute 6 4, "ΟΔΟΣ  ΣΑΣ "⟩

def sigmaUnit : SurfaceUnit := ⟨"ΟΔΟΣ", ⟨none, some "start_char=4"⟩, .lemmaSeparated sigmaWord⟩

/-- A contraction, the word with the sigmas, and a mark. -/
def sigmaUnits : List UnitSentence :=
  [[], [
    ⟨"del", ⟨some 0, none⟩, .explicit
      [⟨1, "ADP", none, "case", .oneBased 3, "de"⟩, ⟨2, "DET", none, "det", .oneBased 3, "el"⟩]⟩,
    sigmaUnit,
    ⟨".", ⟨some 8, none⟩, .lemmaSeparated ⟨6, "PUNCT", none, "punct", .absolute 4 4, "."⟩⟩]]

def sigmaDocument : Document :=
  ⟨["el"], .flat [[], [
    ⟨0, "ADP", "ADP", "case", 2, "del", 0, 0, "de"⟩,
    ⟨1, "DET", "DET", "det", 2, "del", 0, 1, "el"⟩,
    ⟨2, "NOUN", "NOUN__Case=Nom", "obl", 2, "ΟΔΟΣ", 4, 2, "οδος"⟩,
    ⟨3, "NOUN", "NOUN__Case=Nom", "obl", 2, "ΟΔΟΣ", 4, 3, ""⟩,
    ⟨4, "NOUN", "NOUN__Case=Nom", "obl", 2, "ΟΔΟΣ", 4, 4, "σας"⟩,
    ⟨5, "NOUN", "NOUN__Case=Nom", "obl", 2, "ΟΔΟΣ", 4, 5, ""⟩,
    ⟨6, "PUNCT", "PUNCT", "punct", 0, ".", 8, 6, "."⟩]]⟩

theorem assemble_sigmaUnits :
    (∀ units ∈ sigmaUnits, ∀ unit ∈ units, unit.Located) ∧
      assemble .flat ["el"] sigmaUnits = .ok sigmaDocument ∧
        ∃ front own behind, sigmaDocument.sentences[1]? = some (front ++ own ++ behind) ∧
          front.length = 2 ∧ behind.length = 1 ∧ SplitsLemma sigmaUnit sigmaWord own := by
  have hdoc : assemble .flat ["el"] sigmaUnits = .ok sigmaDocument := eq_ok_of_toOption (by decide +kernel)
  have hlocated := exists_assembleSentences_iff.1 ⟨_, sentences_of_assemble hdoc⟩
  obtain ⟨doc, hok, hsplit⟩ := assemble_lemmaSeparated .flat ["el"] hlocated
  obtain rfl : sigmaDocument = doc := Except.ok.inj (hdoc.symm.trans hok)
  exact ⟨hlocated, hdoc, hsplit 1 [_] [_] sigmaUnit sigmaWord rfl rfl⟩

end WordRecords
