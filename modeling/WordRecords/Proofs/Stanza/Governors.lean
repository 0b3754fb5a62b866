import WordRecords.Proofs.Converter
import WordRecords.Proofs.Stanza.Reading

/-!
# Governors in Stanza output

The reader counts the words of a sentence before it looks at their governors, and every word becomes one record.
Governors therefore stay within the records of their sentence, and conversions are canonical
(`convert_stanza_canonical`): they break none of the rules that a document is checked against.
-/

namespace WordRecords.Stanza

/-- Units that list their words give just these, each with its own lemma. -/
theorem flatWordsOf_of_explicit {units : UnitSentence}
    (h : ∀ unit ∈ units, ∃ words, unit.decomposition = .explicit words) :
    flatWordsOf units = (units.flatMap fun unit => unit.decomposition.words).map fun w => ⟨w, w.lemmaForm⟩ := by
  rw [flatWordsOf, List.map_flatMap]
  refine List.flatMap_congr fun unit hu => ?_
  obtain ⟨words, hw⟩ := h unit hu
  rw [SurfaceUnit.flatWords, hw, Decomposition.words]

theorem word_flatWordsOf {units : UnitSentence} (h : ∀ unit ∈ units, ∃ words, unit.decomposition = .explicit words) :
    (flatWordsOf units).map FlatWord.word = units.flatMap fun unit => unit.decomposition.words := by
  rw [flatWordsOf_of_explicit h, List.map_map]
  exact List.map_id _

/-- The words of a sentence that was read point into the sentence. -/
theorem head_lt_of_readSentence {entries : List Entry} {units : UnitSentence} (h : readSentence entries = .ok units)
    {w : FlatWord} (hw : w ∈ flatWordsOf units) : w.head < (flatWordsOf units).length := by
  obtain ⟨hr, hh⟩ := readSentence_eq_ok_iff.1 h
  have hex := explicit_of_reads hr
  have hwords := word_flatWordsOf fun unit hu => (hex unit hu).imp fun _ h => h.1
  have hlen : (flatWordsOf units).length = wordCount units := by
    rw [wordCount, ← hwords, List.length_map]
  have hmem : w.word ∈ units.flatMap fun unit => unit.decomposition.words := by
    rw [← hwords]
    exact List.mem_map_of_mem hw
  obtain ⟨unit, hu, hword⟩ := List.mem_flatMap.1 hmem
  obtain ⟨words, hd, hone⟩ := hex unit hu
  obtain ⟨n, hn⟩ := hone w.word (by rwa [hd] at hword)
  have hle : n ≤ wordCount units := hh unit hu w.word hword n hn
  have hpos : 0 < wordCount units := by
    rw [← hlen]
    exact List.length_pos_of_mem hw
  rw [FlatWord.head, hn, hlen]
  show (n - 1).toNat < wordCount units
  omega

/-- Every record of a sentence that was read points into the sentence. -/
theorem headsInside_of_readSentences {entries : List (List Entry)} {sentences : List UnitSentence}
    {records : List (List Record)} (h : readSentences entries = .ok sentences)
    (ha : assembleSentences sentences = .ok records) : ∀ s ∈ records, ∀ r ∈ s, r.head < s.length := by
  intro s hs r hr
  obtain ⟨units, hu, start, words, hwords, rfl⟩ := exists_of_mem_right (records_of_assembleSentences ha) hs
  obtain ⟨es, -, hread⟩ := exists_of_mem_right (mapM_eq_ok_iff.1 h) hu
  obtain ⟨w, hw, i, rfl⟩ := exists_of_mem_recordSentence hr
  rw [length_recordSentence, ← List.length_map AnchoredWord.flat, hwords]
  refine head_lt_of_readSentence hread ?_
  rw [← hwords]
  exact List.mem_map_of_mem hw

/-! ### Conversions -/

/-- **Conversions of Stanza output break no rule**: whatever the text, the schema and the other settings are, the checks
find nothing, that is, the document is canonical. -/
theorem convert_stanza_canonical {c : Converter} {text : String} {doc : Document} (hc : c.pipeline = .stanza)
    (h : c.convert text = .ok doc) (hn : doc.recordCount < countLimit) : doc.violations = [] ∧ doc.Canonical := by
  obtain ⟨entries, sentences, -, hs, ha⟩ := (Converter.convert_stanza_eq_ok_iff hc).1 h
  have hcan : doc.Canonical :=
    ⟨orderly_of_assemble ha, headsInside_of_readSentences hs (sentences_of_assemble ha)⟩
  exact ⟨hcan.violations_eq_nil (Nat.le_of_lt hn), hcan⟩

/-- A token of two words, of which one has a negative governor and a capital sigma at the end of its lemma, and an empty
sentence. The words are written as lists of their fields. -/
def contractionText : String :=
  "[[\x7b\"id\":[1,2],\"text\":\"del\",\"start_char\":5\x7d,[1,null,\"de\",\"P\",null,2,\"case\",null,null],
    [2,null,\"ΟΔΟΣ\",\"N\",null,-3,\"ROOT\",null,null]],[]]"

/-- What the sentence is converted to. -/
def contractionDocument : Document :=
  ⟨["stanza-1.9.2"], .grouped [
    ⟨0, [⟨0, "P", "P", "case", 1, "del", 5, 0, "de"⟩, ⟨1, "N", "N", "root", 0, "del", 5, 1, "οδος"⟩]⟩, ⟨1, []⟩]⟩

theorem convert_contraction_canonical :
    (⟨.stanza, "1.9.2", .grouped, [], none⟩ : Converter).convert contractionText = .ok contractionDocument ∧
      contractionDocument.recordCount < countLimit ∧
      contractionDocument.violations = [] ∧ contractionDocument.Canonical := by
  have h : (⟨.stanza, "1.9.2", .grouped, [], none⟩ : Converter).convert contractionText = .ok contractionDocument :=
    eq_ok_of_toOption (by decide +kernel)
  have hn : contractionDocument.recordCount < countLimit := by decide
  exact ⟨h, hn, convert_stanza_canonical rfl h hn⟩

end WordRecords.Stanza
