import WordRecords.Converter
import WordRecords.Proofs.Assembly

/-!
# Stages of a conversion

A conversion succeeds exactly when its text is decoded, the sentences are read, and the units are assembled. One
statement for each pipeline says so, and names what the stages hand on. An error belongs to one of few kinds
(`ConversionError.kind`).

Labels and schema come in when the records are known (`convertFrom_eq_map`), so that converters of one pipeline differ
in how they label and store the same records (`convert_same_records`).
-/

namespace WordRecords

/-- What keeps a document from being made, the wording aside. -/
inductive ErrorKind
  /-- A unit has no offset. -/
  | missingOffset
  /-- A file could not be read as text. -/
  | unreadable
  /-- The text is no JSON of the right shape. -/
  | json
  /-- The output of a pipeline makes no sentences. -/
  | malformed (pipeline : Pipeline)
  /-- No pipeline has the name. -/
  | unknownPipeline
  /-- The settings are not complete. -/
  | configuration
deriving DecidableEq

/-- The kind of an error. -/
def ConversionError.kind : ConversionError → ErrorKind
  | .missingOffset _ => .missingOffset
  | .unreadable _ => .unreadable
  | .output (.json _) => .json
  | .output (.stanza _) => .malformed .stanza
  | .output (.spacy _) => .malformed .spacy
  | .unknownPipeline _ => .unknownPipeline
  | .blankVersion => .configuration

namespace Converter

variable {c : Converter} {text : String} {doc : Document}

theorem convert_eq_ok_iff :
    c.convert text = .ok doc ↔
      ∃ sentences, c.pipeline.read text = .ok sentences ∧
        assemble c.schema (c.labelsFor none) sentences = .ok doc := by
  simp only [convert, convertFrom, bind_eq_ok_iff, mapError_eq_ok_iff]

theorem convert_stanza_eq_ok_iff (hc : c.pipeline = .stanza) :
    c.convert text = .ok doc ↔
      ∃ entries sentences, Stanza.entriesOfText text = .ok entries ∧ Stanza.readSentences entries = .ok sentences ∧
        assemble c.schema (c.labelsFor none) sentences = .ok doc := by
  simp only [convert_eq_ok_iff, hc, Pipeline.read, bind_eq_ok_iff, mapError_eq_ok_iff]
  constructor
  · rintro ⟨sentences, ⟨entries, he, hs⟩, ha⟩
    exact ⟨entries, sentences, he, hs, ha⟩
  · rintro ⟨entries, sentences, he, hs, ha⟩
    exact ⟨sentences, ⟨entries, he, hs⟩, ha⟩

theorem convert_spacy_eq_ok_iff (hc : c.pipeline = .spacy) :
    c.convert text = .ok doc ↔
      ∃ d sentences, Spacy.Doc.ofText text = .ok d ∧ Spacy.readSentences d = .ok sentences ∧
        assemble c.schema (c.labelsFor none) sentences = .ok doc := by
  simp only [convert_eq_ok_iff, hc, Pipeline.read, bind_eq_ok_iff, mapError_eq_ok_iff]
  constructor
  · rintro ⟨sentences, ⟨d, hd, hs⟩, ha⟩
    exact ⟨d, sentences, hd, hs, ha⟩
  · rintro ⟨d, sentences, hd, hs, ha⟩
    exact ⟨sentences, ⟨d, hd, hs⟩, ha⟩

/-! ### Entries at hand -/

/-- What a converter makes of the entries of Stanza output. -/
def convertEntries (c : Converter) (entries : List (List Stanza.Entry)) : Except ConversionError Document := do
  let sentences ← ((Stanza.readSentences entries).mapError .stanza).mapError .output
  (assemble c.schema (c.labelsFor none) sentences).mapError .missingOffset

section Entries

variable {entries : List (List Stanza.Entry)} (hc : c.pipeline = .stanza) (he : Stanza.entriesOfText text = .ok entries)
include hc he

theorem convert_eq_convertEntries : c.convert text = c.convertEntries entries := by
  rw [convert, convertFrom, hc, Pipeline.read, he]
  rfl

theorem convert_of_readSentences_ok {sentences : List UnitSentence}
    (hr : Stanza.readSentences entries = .ok sentences) :
    c.convert text = (assemble c.schema (c.labelsFor none) sentences).mapError .missingOffset := by
  rw [convert_eq_convertEntries hc he, convertEntries, hr]
  rfl

theorem convert_of_readSentences_error {p : Stanza.Problem} (hr : Stanza.readSentences entries = .error p) :
    c.convert text = .error (.output (.stanza p)) := by
  rw [convert_eq_convertEntries hc he, convertEntries, hr]
  rfl

end Entries

/-! ### Settings -/

/-- The records that a converter makes of a text, before they are stored. -/
def records (c : Converter) (text : String) : Except ConversionError (List (List Record)) := do
  let sentences ← (c.pipeline.read text).mapError .output
  (assembleSentences sentences).mapError .missingOffset

theorem records_congr {c' : Converter} (hp : c.pipeline = c'.pipeline) (text : String) :
    c.records text = c'.records text := by
  rw [records, records, hp]

/-- The schema and the labels come in last, when the records are known. -/
theorem convertFrom_eq_map (c : Converter) (path : Option String) (text : String) :
    c.convertFrom path text = (c.records text).map fun rs => ⟨c.labelsFor path, .ofSentences c.schema rs⟩ := by
  rw [convertFrom, records]
  cases (c.pipeline.read text).mapError ConversionError.output with
  | error e => rfl
  | ok sentences =>
    refine Eq.trans ?_ mapError_map
    rw [← assemble_eq_map]
    rfl

theorem convert_eq_map (c : Converter) (text : String) :
    c.convert text = (c.records text).map fun rs => ⟨c.labelsFor none, .ofSentences c.schema rs⟩ :=
  c.convertFrom_eq_map none text

theorem labels_of_convertFrom {path : Option String} (h : c.convertFrom path text = .ok doc) :
    doc.labels = c.labelsFor path := by
  rw [convertFrom_eq_map, map_eq_ok_iff] at h
  obtain ⟨rs, -, rfl⟩ := h
  rfl

/-- A document has the labels of its converter, for the path of its input. -/
theorem labels_of_convertInput {contents : String → Option String} {input : Input}
    (h : c.convertInput contents input = .ok doc) : doc.labels = c.labelsFor input.path? := by
  cases input with
  | text content => exact labels_of_convertFrom h
  | file path =>
    rw [convertInput] at h
    cases hc : contents path with
    | none =>
      rw [hc] at h
      cases h
    | some content =>
      rw [hc] at h
      exact labels_of_convertFrom h

/-- **The settings of a converter reach the records in no way.** Of two converters of one pipeline, either both fail
with the same error, or both make a document, and the body of the second is what the body of the first becomes in the
schema of the second. -/
theorem convert_same_records {c c' : Converter} (hp : c.pipeline = c'.pipeline) (text : String) :
    (∃ e, c.convert text = .error e ∧ c'.convert text = .error e) ∨
      ∃ doc doc', c.convert text = .ok doc ∧ c'.convert text = .ok doc' ∧
        (doc.withSchema c'.schema).body = doc'.body ∧
        doc.labels = c.labelsFor none ∧ doc'.labels = c'.labelsFor none := by
  rw [c.convert_eq_map, c'.convert_eq_map, records_congr hp]
  cases c'.records text with
  | error e => exact .inl ⟨e, rfl, rfl⟩
  | ok rs =>
    refine .inr ⟨_, _, rfl, rfl, ?_, rfl, rfl⟩
    rw [Document.withSchema, Document.sentences, Body.sentences_ofSentences]

/-- A text of an empty sentence and a word, and two converters for it. -/
def greetingText : String := "[[],[[1,\"Hola\",\"hola\",\"INTJ\",null,0,\"root\",0,null]]]"

def groupingConverter : Converter := ⟨.stanza, "1.9.2", .grouped, ["es"], some "a-b.txt"⟩

def flatConverter : Converter := ⟨.stanza, "1.10", .flat, [], none⟩

theorem convert_greetingText :
    groupingConverter.pipeline = flatConverter.pipeline ∧
      ∃ doc doc', groupingConverter.convert greetingText = .ok doc ∧ flatConverter.convert greetingText = .ok doc' ∧
        (doc.withSchema .flat).body = doc'.body ∧
        doc.labels = ["a", "b", "stanza-1.9.2", "es"] ∧ doc'.labels = ["stanza-1.10"] := by
  have hp : groupingConverter.pipeline = flatConverter.pipeline := rfl
  refine ⟨hp, ?_⟩
  have hsome : (groupingConverter.convert greetingText).toOption.isSome := by decide +kernel
  have hlabels : groupingConverter.labelsFor none = ["a", "b", "stanza-1.9.2", "es"] := by decide +kernel
  have hlabels' : flatConverter.labelsFor none = ["stanza-1.10"] := by decide +kernel
  rcases convert_same_records hp greetingText with ⟨e, he, -⟩ | ⟨doc, doc', h, h', hbody, hl, hl'⟩
  · rw [he] at hsome
    cases hsome
  · exact ⟨doc, doc', h, h', hbody, hl.trans hlabels, hl'.trans hlabels'⟩

end Converter

end WordRecords
