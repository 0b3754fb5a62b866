import WordRecords.Proofs.Assembly

/-!
# Checks of assembled documents

The only rule that an assembled document can break is the one on governors, and the units alone decide where it does
(`violations_of_assemble`): there is one violation for each word whose governor lies outside its sentence, in order,
with the number that the word has in the document and the number of words of its sentence (`strayHeads`).
-/

namespace WordRecords

/-- The words of a sentence, each with the number of words of the sentence. -/
def withLength (words : List FlatWord) : List (FlatWord × Nat) := words.map fun w => (w, words.length)

/-- The words of all sentences in order, each with the number of words of its sentence. -/
def wordsWithLengths (sentences : List UnitSentence) : List (FlatWord × Nat) :=
  sentences.flatMap fun units => withLength (flatWordsOf units)

/-- The violation of a word, where its number and the number of words of its sentence are known: its governor lies
outside the sentence. -/
def FlatWord.strayHead? (w : FlatWord) (id length : Nat) : Option Violation :=
  if w.head < length then none else some (.headOutOfRange id w.head length)

/-- The violations of the governors of words that are numbered from a given number. -/
def strayHeads (start : Nat) (words : List (FlatWord × Nat)) : List Violation :=
  (words.zipIdx start).filterMap fun w => w.1.1.strayHead? w.2 w.1.2

/-! ### One sentence -/

theorem headViolationsOf_recordSentence (start : Nat) (words : List AnchoredWord) :
    headViolationsOf (recordSentence start words) = strayHeads start (withLength (words.map AnchoredWord.flat)) := by
  -- both sides go through the words with their positions
  have hrecords : recordSentence start words =
      words.zipIdx.map fun w => w.1.flat.toRecord (start + w.2) w.2 w.1.text w.1.idx := List.mapIdx_eq_zipIdx_map
  have hwords : (withLength (words.map AnchoredWord.flat)).zipIdx start =
      words.zipIdx.map fun w => ((w.1.flat, words.length), start + w.2) := by
    rw [withLength, List.zipIdx_map, List.zipIdx_map, List.length_map, List.zipIdx_eq_map_add, List.map_map,
      List.map_map]
    rfl
  rw [headViolationsOf, length_recordSentence, hrecords, List.flatMap_map, strayHeads, hwords, List.filterMap_map,
    List.filterMap_eq_flatMap_toList]
  refine List.flatMap_congr fun w _ => ?_
  by_cases hin : w.1.flat.head < words.length <;> simp [FlatWord.toRecord, FlatWord.strayHead?, hin]

/-! ### All sentences -/

theorem strayHeads_append (start : Nat) (words words' : List (FlatWord × Nat)) :
    strayHeads start (words ++ words') = strayHeads start words ++ strayHeads (start + words.length) words' := by
  rw [strayHeads, List.zipIdx_append, List.filterMap_append]
  rfl

theorem headViolations_recordSentences (start : Nat) (ws : List (List AnchoredWord)) :
    (recordSentences start ws).flatMap headViolationsOf =
      strayHeads start (ws.flatMap fun words => withLength (words.map AnchoredWord.flat)) := by
  induction ws generalizing start with
  | nil => rfl
  | cons words later ih =>
    have hlen : (withLength (words.map AnchoredWord.flat)).length = words.length := by
      rw [withLength, List.length_map, List.length_map]
    rw [recordSentences, List.flatMap_cons, List.flatMap_cons, strayHeads_append, headViolationsOf_recordSentence, ih,
      hlen]

theorem headViolations_of_assemble {schema : Schema} {labels : List String} {sentences : List UnitSentence}
    {doc : Document} (h : assemble schema labels sentences = .ok doc) :
    doc.headViolations = strayHeads 0 (wordsWithLengths sentences) := by
  obtain ⟨ws, hws, hrecords⟩ := assembleSentences_eq_ok_iff.1 (sentences_of_assemble h)
  have hwords : sentences.map flatWordsOf = ws.map (List.map AnchoredWord.flat) :=
    forall₂_eq_iff.1 (hws.imp fun _ _ hw => (flat_anchorSentence hw).symm)
  calc doc.headViolations = (recordSentences 0 ws).flatMap headViolationsOf := by
        rw [Document.headViolations, hrecords]
    _ = strayHeads 0 ((ws.map (List.map AnchoredWord.flat)).flatMap withLength) := by
        rw [headViolations_recordSentences, List.flatMap_map]
    _ = strayHeads 0 (wordsWithLengths sentences) := by rw [← hwords, List.flatMap_map, wordsWithLengths]

/-- **Assembled documents break the rule on governors only**, as the units have it. -/
theorem violations_of_assemble {schema : Schema} {labels : List String} {sentences : List UnitSentence}
    {doc : Document} (h : assemble schema labels sentences = .ok doc) (hn : doc.recordCount ≤ countLimit) :
    doc.violations = doc.headViolations ∧ doc.headViolations = strayHeads 0 (wordsWithLengths sentences) :=
  ⟨(orderly_of_assemble h).violations_eq hn, headViolations_of_assemble h⟩

/-- A contraction with a governor behind its sentence, an empty sentence, and a split lemma with another. -/
def strayUnits : List UnitSentence :=
  [[⟨"del", ⟨some 0, none⟩, .explicit
      [⟨1, "ADP", none, "Case", .oneBased 4, "De"⟩, ⟨2, "DET", none, "det", .oneBased 2, "el"⟩]⟩],
    [],
    [⟨"sí", ⟨some 4, none⟩, .explicit [⟨1, "INTJ", none, "root", .oneBased (-7), "sí"⟩]⟩,
      ⟨"dímelo", ⟨some 8, none⟩, .lemmaSeparated ⟨9, "VERB", none, "ROOT", .absolute 12 8, "Decir él"⟩⟩]]

def strayRecords : Document :=
  ⟨[], .grouped [
    ⟨0, [⟨0, "ADP", "ADP", "case", 3, "del", 0, 0, "de"⟩, ⟨1, "DET", "DET", "det", 1, "del", 0, 1, "el"⟩]⟩,
    ⟨1, []⟩,
    ⟨2, [⟨2, "INTJ", "INTJ", "root", 0, "sí", 4, 0, "sí"⟩, ⟨3, "VERB", "VERB", "root", 4, "dímelo", 8, 1, "decir"⟩,
      ⟨4, "VERB", "VERB", "root", 4, "dímelo", 8, 2, "él"⟩]⟩]⟩

theorem violations_strayUnits :
    assemble .grouped [] strayUnits = .ok strayRecords ∧ strayRecords.recordCount ≤ countLimit ∧
      strayRecords.violations = [.headOutOfRange 0 3 2, .headOutOfRange 3 4 3, .headOutOfRange 4 4 3] := by
  have hdoc : assemble .grouped [] strayUnits = .ok strayRecords := eq_ok_of_toOption (by decide +kernel)
  have hn : strayRecords.recordCount ≤ countLimit := by decide
  obtain ⟨hv, hheads⟩ := violations_of_assemble hdoc hn
  exact ⟨hdoc, hn, hv.trans hheads⟩

end WordRecords
