import WordRecords.Proofs.Converter
import WordRecords.Proofs.Spacy.Grouping
import WordRecords.Proofs.Stanza.Reading
import WordRecords.Proofs.Text.Fields
import WordRecords.Proofs.Text.Slice

/-!
# Agreement of the readers

An `AnnotatedText` is a text with sentences of words, each a unit of its own, as either pipeline may write it.
`AnnotatedText.entries` writes it in the manner of Stanza, and `AnnotatedText.doc` in the manner of spaCy. Both readers
take it in, and the records are in either case those that `AnnotatedText.records` lists; they depend on the pipeline in
the heads of roots only (`readers_agree`).

The readers are followed sentence by sentence: `Yields units s` says that units make the records of a sentence,
whatever the number of its first record is.
-/

namespace WordRecords

/-! ### Annotated texts -/

/-- A word with its analysis and its place in the text. -/
structure AnnotatedWord where
  /-- The word as it is written. -/
  text : String
  /-- Its offset in characters. -/
  offset : Nat
  lemmaForm : String
  pos : String
  /-- The morphological features, if there are any. -/
  features : Option String
  dep : String
  /-- The position of the governor in the sentence. A root has none. -/
  governor : Option Nat
  /-- The lemma is that of a single word. -/
  single : ' ' ∉ lemmaForm.toList

/-- A sentence with the stretch of the text that belongs to it. -/
structure AnnotatedSentence where
  /-- The words, in order. -/
  words : List AnnotatedWord
  /-- The stretch of the text. -/
  span : Spacy.Span
  /-- Governors are words of the sentence. -/
  governor_lt : ∀ w ∈ words, ∀ g, w.governor = some g → g < words.length
  /-- The words start in the stretch. -/
  holds : ∀ w ∈ words, span.start ≤ w.offset ∧ w.offset < span.stop

/-- A text with its sentences. -/
structure AnnotatedText where
  text : String
  /-- The sentences, in order. -/
  sentences : List AnnotatedSentence
  /-- Words stand at their offsets. -/
  occursAt : ∀ s ∈ sentences, ∀ w ∈ s.words, Text.OccursAt text w.text w.offset
  /-- A sentence ends before the words of all later ones. -/
  apart : sentences.Pairwise fun s later => ∀ w ∈ later.words, s.span.stop ≤ w.offset

/-! ### The records -/

/-- The features that a tag shows. -/
def AnnotatedWord.shown (w : AnnotatedWord) : Option String := w.features.filter fun features => features ≠ ""

/-- The record of a word, where its numbers are known, and its head. -/
def AnnotatedWord.record (w : AnnotatedWord) (id index head : Nat) : Record where
  id := id
  pos := w.pos
  tag := composeTag w.pos w.shown
  dep := Text.lowerCase w.dep
  head := head
  text := w.text
  idx := w.offset
  index := index
  lemmaForm := Text.lowerCase w.lemmaForm

/-- The records of a sentence whose first record has a given number. The head of a root depends on its index. -/
def AnnotatedSentence.records (rootHead : Nat → Nat) (start : Nat) (s : AnnotatedSentence) : List Record :=
  s.words.mapIdx fun index w => w.record (start + index) index (w.governor.getD (rootHead index))

/-- The records of sentences of which the first begins with a given number. -/
def recordsFrom (rootHead : Nat → Nat) : Nat → List AnnotatedSentence → List (List Record)
  | _, [] => []
  | start, s :: later => s.records rootHead start :: recordsFrom rootHead (start + s.words.length) later

/-- The records of a text. -/
def AnnotatedText.records (a : AnnotatedText) (rootHead : Nat → Nat) : List (List Record) :=
  recordsFrom rootHead 0 a.sentences

/-! ### The output of the pipelines -/

/-- The number of a word's governor, counted from one. A root has zero. -/
def AnnotatedWord.oneBased (w : AnnotatedWord) : Int := w.governor.elim 0 fun g => (g : Int) + 1

/-- The entry of a word. -/
def AnnotatedWord.entry (index : Nat) (w : AnnotatedWord) : Stanza.Entry where
  id := .number (index + 1)
  text := some w.text
  lemmaForm := some w.lemmaForm
  upos := some w.pos
  feats := w.features
  head := some w.oneBased
  deprel := some w.dep
  startChar := some w.offset
  misc := none

/-- The sentences as Stanza writes them. -/
def AnnotatedText.entries (a : AnnotatedText) : List (List Stanza.Entry) :=
  a.sentences.map fun s => s.words.mapIdx AnnotatedWord.entry

/-- The token of a word, in a sentence that begins with a given token. A root points at itself. -/
def AnnotatedWord.token (start index : Nat) (w : AnnotatedWord) : Spacy.Token where
  id := start + index
  start := w.offset
  stop := w.offset + w.text.length
  pos := some w.pos
  morph := w.features
  lemmaForm := some w.lemmaForm
  dep := some w.dep
  head := some (start + w.governor.getD index)

/-- The tokens of sentences of which the first begins with a given token. -/
def tokensFrom : Nat → List AnnotatedSentence → List (List Spacy.Token)
  | _, [] => []
  | start, s :: later => s.words.mapIdx (AnnotatedWord.token start) :: tokensFrom (start + s.words.length) later

/-- The document as spaCy writes it. -/
def AnnotatedText.doc (a : AnnotatedText) : Spacy.Doc where
  text := a.text
  sents := a.sentences.map AnnotatedSentence.span
  tokens := (tokensFrom 0 a.sentences).flatten

/-! ### Units that yield the records -/

/-- The units make the records of a sentence, whatever the number of its first record is. -/
def Yields (rootHead : Nat → Nat) (units : UnitSentence) (s : AnnotatedSentence) : Prop :=
  ∃ words, anchorSentence units = .ok words ∧ ∀ start, recordSentence start words = s.records rootHead start

/-- The analysis of a word, with the number and the governor that a pipeline gives it. -/
def AnnotatedWord.word (w : AnnotatedWord) (nativeId : Nat) (head : HeadRef) : Word :=
  ⟨nativeId, w.pos, w.shown, w.dep, head, w.lemmaForm⟩

/-- Units that hold the words of a sentence one by one yield its records. -/
theorem yields_mapIdx {rootHead : Nat → Nat} {s : AnnotatedSentence} {unit : Nat → AnnotatedWord → SurfaceUnit}
    {word : Nat → AnnotatedWord → Word}
    (hunit : ∀ i w, (unit i w).anchor = .ok [⟨⟨word i w, w.lemmaForm⟩, w.text, w.offset⟩])
    (hword : ∀ i w, ∃ n ref, word i w = w.word n ref ∧ ref.rebase = w.governor.getD (rootHead i)) :
    Yields rootHead (s.words.mapIdx unit) s := by
  refine ⟨s.words.mapIdx fun i w => ⟨⟨word i w, w.lemmaForm⟩, w.text, w.offset⟩, ?_, fun start => ?_⟩
  · refine anchorSentence_eq_ok_iff.2 ⟨s.words.mapIdx fun i w => [⟨⟨word i w, w.lemmaForm⟩, w.text, w.offset⟩],
      forall₂_mapIdx fun i w _ => hunit i w, ?_⟩
    rw [List.mapIdx_eq_zipIdx_map, List.mapIdx_eq_zipIdx_map, ← List.flatMap_def, ← List.map_eq_flatMap]
  · rw [recordSentence, List.mapIdx_mapIdx, AnnotatedSentence.records]
    congr 1
    funext i w
    obtain ⟨n, ref, hw, hhead⟩ := hword i w
    show FlatWord.toRecord ⟨word i w, w.lemmaForm⟩ (start + i) i w.text w.offset = _
    rw [hw, ← hhead]
    rfl

theorem length_records (rootHead : Nat → Nat) (start : Nat) (s : AnnotatedSentence) :
    (s.records rootHead start).length = s.words.length := List.length_mapIdx

/-- Sentences of units that yield the records of theirs are assembled to the records of the text. -/
theorem assembleSentences_of_yields {rootHead : Nat → Nat} {sentences : List UnitSentence} {ss : List AnnotatedSentence}
    (h : List.Forall₂ (Yields rootHead) sentences ss) :
    assembleSentences sentences = .ok (recordsFrom rootHead 0 ss) := by
  suffices hs : ∃ ws, List.Forall₂ (fun units words => anchorSentence units = .ok words) sentences ws ∧
      ∀ start, recordSentences start ws = recordsFrom rootHead start ss by
    obtain ⟨ws, hws, hrec⟩ := hs
    exact assembleSentences_eq_ok_iff.2 ⟨ws, hws, (hrec 0).symm⟩
  induction h with
  | nil => exact ⟨[], .nil, fun _ => rfl⟩
  | @cons units s _ _ hy _ ih =>
    obtain ⟨words, hw, hrec⟩ := hy
    obtain ⟨ws, hws, hrecs⟩ := ih
    have hlen : words.length = s.words.length := by
      rw [← length_recordSentence 0 words, hrec, length_records]
    refine ⟨words :: ws, .cons hw hws, fun start => ?_⟩
    rw [recordSentences, recordsFrom, hrec, hrecs, hlen]

/-! ### The reader of Stanza output -/

/-- The unit of a word's entry. -/
def AnnotatedWord.entryUnit (index : Nat) (w : AnnotatedWord) : SurfaceUnit :=
  ⟨w.text, ⟨some w.offset, none⟩, .single (w.word (index + 1) (.oneBased w.oneBased))⟩

/-- Entries for words make units one by one. -/
theorem reads_of_forall₂ {entries : List Stanza.Entry} {units : UnitSentence}
    (h : List.Forall₂ (fun e unit => ∃ n text w, e.id.parse? = some (.word n) ∧ e.text = some text ∧
      e.toWord n = .ok w ∧ unit = ⟨text, e.offsetHint, .single w⟩) entries units) : Stanza.Reads entries units := by
  induction h with
  | nil => exact .nil
  | cons hu _ ih =>
    obtain ⟨n, text, w, hid, htext, hw, rfl⟩ := hu
    exact .word hid htext hw ih

theorem wordCount_of_single {units : UnitSentence} (h : ∀ unit ∈ units, unit.decomposition.words.length = 1) :
    Stanza.wordCount units = units.length := by
  rw [Stanza.wordCount, List.length_flatMap]
  induction units with
  | nil => rfl
  | cons unit units ih =>
    rw [List.forall_mem_cons] at h
    rw [List.map_cons, List.sum_cons, h.1, ih h.2, List.length_cons, Nat.add_comm]

theorem wordCount_entryUnits (ws : List AnnotatedWord) :
    Stanza.wordCount (ws.mapIdx AnnotatedWord.entryUnit) = ws.length := by
  rw [wordCount_of_single fun unit hu => ?_, List.length_mapIdx]
  obtain ⟨i, hi, rfl⟩ := List.mem_mapIdx.1 hu
  rfl

/-- A sentence of entries is read to units that yield its records. -/
theorem exists_readSentence (s : AnnotatedSentence) :
    ∃ units, Stanza.readSentence (s.words.mapIdx AnnotatedWord.entry) = .ok units ∧ Yields (fun _ => 0) units s := by
  refine ⟨s.words.mapIdx AnnotatedWord.entryUnit, Stanza.readSentence_eq_ok_iff.2 ⟨?_, ?_⟩, ?_⟩
  -- every entry makes its unit
  · refine reads_of_forall₂ (forall₂_mapIdx fun i w _ => ?_)
    exact ⟨i + 1, w.text, _, rfl, rfl, Stanza.toWord_eq_ok_iff.2 ⟨_, _, _, _, rfl, rfl, rfl, rfl, rfl⟩, rfl⟩
  -- governors are words of the sentence
  · intro unit hu word hword n hn
    obtain ⟨i, hi, rfl⟩ := List.mem_mapIdx.1 hu
    obtain rfl := List.mem_singleton.1 hword
    obtain rfl : (s.words[i]).oneBased = n := HeadRef.oneBased.inj hn
    rw [wordCount_entryUnits, AnnotatedWord.oneBased]
    cases hg : (s.words[i]).governor with
    | none => simp
    | some g =>
      have := s.governor_lt _ (List.getElem_mem hi) g hg
      simp only [Option.elim_some]
      omega
  -- a root, which has governor zero, is rebased to zero
  · refine yields_mapIdx (fun i w => rfl) fun i w => ⟨_, _, rfl, ?_⟩
    rw [AnnotatedWord.oneBased, HeadRef.rebase]
    cases w.governor with
    | none => rfl
    | some g =>
      simp only [Option.elim_some, Option.getD_some]
      omega

/-- **The reader of Stanza output finds the records**, with the head zero for roots. -/
theorem exists_readSentences_entries (a : AnnotatedText) :
    ∃ sentences, Stanza.readSentences a.entries = .ok sentences ∧
      assembleSentences sentences = .ok (a.records fun _ => 0) := by
  suffices h : ∀ ss : List AnnotatedSentence, ∃ sentences,
      List.Forall₂ (fun es units => Stanza.readSentence es = .ok units)
        (ss.map fun s => s.words.mapIdx AnnotatedWord.entry) sentences ∧
      List.Forall₂ (Yields fun _ => 0) sentences ss by
    obtain ⟨sentences, hr, hy⟩ := h a.sentences
    exact ⟨sentences, mapM_eq_ok_iff.2 hr, assembleSentences_of_yields hy⟩
  intro ss
  induction ss with
  | nil => exact ⟨[], .nil, .nil⟩
  | cons s ss ih =>
    obtain ⟨units, hr, hy⟩ := exists_readSentence s
    obtain ⟨sentences, hrs, hys⟩ := ih
    exact ⟨units :: sentences, .cons hr hrs, .cons hy hys⟩

/-! ### The reader of spaCy output -/

/-- The unit of a word's token. -/
def AnnotatedWord.tokenUnit (start index : Nat) (w : AnnotatedWord) : SurfaceUnit :=
  ⟨w.text, ⟨some w.offset, none⟩,
    .lemmaSeparated (w.word (start + index) (.absolute (start + w.governor.getD index) start))⟩

theorem anchor_tokenUnit (start index : Nat) (w : AnnotatedWord) :
    (w.tokenUnit start index).anchor = .ok [⟨⟨w.word (start + index) (.absolute (start + w.governor.getD index) start),
      w.lemmaForm⟩, w.text, w.offset⟩] := by
  refine anchor_eq_ok_iff.2 ⟨w.offset, rfl, ?_⟩
  have hsplit : Text.splitFields ' ' w.lemmaForm = [w.lemmaForm] := Text.splitFields_of_not_mem w.single
  simp only [SurfaceUnit.flatWords, AnnotatedWord.tokenUnit, AnnotatedWord.word, hsplit, List.map_singleton]

theorem start_of_mem_tokensFrom {start : Nat} {ss : List AnnotatedSentence} {t : Spacy.Token}
    (h : t ∈ (tokensFrom start ss).flatten) : ∃ s ∈ ss, ∃ w ∈ s.words, t.start = w.offset := by
  induction ss generalizing start with
  | nil => cases h
  | cons s ss ih =>
    rw [tokensFrom, List.flatten_cons, List.mem_append] at h
    rcases h with h | h
    · obtain ⟨i, hi, rfl⟩ := List.mem_mapIdx.1 h
      exact ⟨s, List.mem_cons_self, s.words[i], List.getElem_mem hi, rfl⟩
    · obtain ⟨s', hs', hw⟩ := ih h
      exact ⟨s', List.mem_cons_of_mem s hs', hw⟩

/-- Every span takes the tokens of its sentence, and leaves none over. -/
theorem groupsOf_tokensFrom (start : Nat) {ss : List AnnotatedSentence}
    (h : ss.Pairwise fun s later => ∀ w ∈ later.words, s.span.stop ≤ w.offset) :
    Spacy.groupsOf (ss.map AnnotatedSentence.span) (tokensFrom start ss).flatten = tokensFrom start ss ∧
      Spacy.unplaced (ss.map AnnotatedSentence.span) (tokensFrom start ss).flatten = [] := by
  induction ss generalizing start with
  | nil => exact ⟨rfl, rfl⟩
  | cons s ss ih =>
    obtain ⟨hs, hss⟩ := List.pairwise_cons.1 h
    have hown : ∀ t ∈ s.words.mapIdx (AnnotatedWord.token start), s.span.reaches t = true := by
      intro t ht
      obtain ⟨i, hi, rfl⟩ := List.mem_mapIdx.1 ht
      exact Spacy.Span.reaches_of_holds (s.holds _ (List.getElem_mem hi))
    have hlater : ∀ t ∈ (tokensFrom (start + s.words.length) ss).flatten, s.span.reaches t = false := by
      intro t ht
      obtain ⟨s', hs', w, hw, hstart⟩ := start_of_mem_tokensFrom ht
      have := hs s' hs' w hw
      exact decide_eq_false (by omega)
    obtain ⟨htake, hdrop⟩ := Spacy.takeWhile_append_of_forall hown hlater
    obtain ⟨hgroups, hun⟩ := ih (start + s.words.length) hss
    rw [tokensFrom, List.flatten_cons, List.map_cons, Spacy.groupsOf, Spacy.unplaced, htake, hdrop, hgroups, hun]
    exact ⟨rfl, rfl⟩

theorem spans_doc (a : AnnotatedText) : a.doc.spans = a.sentences.map AnnotatedSentence.span := by
  rw [Spacy.Doc.spans]
  refine if_neg ?_
  rintro ⟨hs, ht⟩
  have hnil : a.sentences = [] := List.map_eq_nil_iff.1 hs
  exact ht (by rw [AnnotatedText.doc, hnil]; rfl)

/-- The tokens of a sentence make units that yield its records. -/
theorem exists_groupUnits {s : AnnotatedSentence} {text : String}
    (h : ∀ w ∈ s.words, Text.OccursAt text w.text w.offset) (start : Nat) :
    ∃ units, Spacy.GroupUnits ((Text.CharIndex.ofString text).slice? text) (s.words.mapIdx (AnnotatedWord.token start))
      units ∧ Yields (fun index => index) units s := by
  refine ⟨s.words.mapIdx (AnnotatedWord.tokenUnit start), ?_, ?_⟩
  · refine forall₂_mapIdx fun i w hw => ?_
    -- a sentence with a word has a first token
    have hfirst : Spacy.firstId (s.words.mapIdx (AnnotatedWord.token start)) = start := by
      cases hws : s.words with
      | nil => simp [hws] at hw
      | cons w' ws => rw [List.mapIdx_cons]; rfl
    rw [hfirst]
    exact ⟨w.text, Text.slice?_of_occursAt (h w (List.mem_of_getElem? hw)),
      Spacy.toUnit_eq_ok_iff.2 ⟨_, _, _, _, rfl, rfl, rfl, rfl, rfl⟩⟩
  · refine yields_mapIdx (anchor_tokenUnit start) fun i w => ⟨_, _, rfl, ?_⟩
    exact Nat.add_sub_cancel_left start _

/-- **The reader of spaCy output finds the records**, with their own indices as heads of roots. -/
theorem exists_readSentences_doc (a : AnnotatedText) :
    ∃ sentences, Spacy.readSentences a.doc = .ok sentences ∧
      assembleSentences sentences = .ok (a.records fun index => index) := by
  -- the sentences that are left begin with any token
  suffices h : ∀ (ss : List AnnotatedSentence) (start : Nat), (∀ s ∈ ss, s ∈ a.sentences) → ∃ sentences,
      List.Forall₂ (Spacy.GroupUnits a.doc.cut) (tokensFrom start ss) sentences ∧
      List.Forall₂ (Yields fun index => index) sentences ss by
    obtain ⟨sentences, hg, hy⟩ := h a.sentences 0 fun _ hs => hs
    obtain ⟨hgroups, hun⟩ := groupsOf_tokensFrom 0 a.apart
    refine ⟨sentences, Spacy.readSentences_eq_ok_iff.2 ⟨?_, ?_⟩, assembleSentences_of_yields hy⟩
    · rw [spans_doc]
      exact hun
    · rw [Spacy.Doc.groups, spans_doc]
      show List.Forall₂ _ (Spacy.groupsOf _ (tokensFrom 0 a.sentences).flatten) sentences
      rwa [hgroups]
  intro ss
  induction ss with
  | nil => exact fun _ _ => ⟨[], .nil, .nil⟩
  | cons s ss ih =>
    intro start hss
    rw [List.forall_mem_cons] at hss
    obtain ⟨units, hg, hy⟩ := exists_groupUnits (a.occursAt s hss.1) start
    obtain ⟨sentences, hgs, hys⟩ := ih (start + s.words.length) hss.2
    exact ⟨units :: sentences, .cons hg hgs, .cons hy hys⟩

/-! ### Agreement -/

/-- A record without its head. -/
def Record.headless (r : Record) : Record := { r with head := 0 }

/-- The same sentences, with every record replaced. -/
def Body.mapRecords (f : Record → Record) : Body → Body
  | .grouped sentences => .grouped (sentences.map fun s => ⟨s.id, s.records.map f⟩)
  | .flat sentences => .flat (sentences.map fun s => s.map f)

theorem mapRecords_ofSentences (f : Record → Record) (schema : Schema) (ss : List (List Record)) :
    (Body.ofSentences schema ss).mapRecords f = .ofSentences schema (ss.map fun s => s.map f) := by
  cases schema with
  | flat => rfl
  | grouped =>
    simp only [Body.ofSentences, Body.mapRecords, List.mapIdx_eq_zipIdx_map, List.map_map, List.zipIdx_map]
    rfl

/-- What is set as head of roots is not seen without heads. -/
theorem headless_recordsFrom (rootHead rootHead' : Nat → Nat) (start : Nat) (ss : List AnnotatedSentence) :
    (recordsFrom rootHead start ss).map (fun s => s.map Record.headless) =
      (recordsFrom rootHead' start ss).map (fun s => s.map Record.headless) := by
  induction ss generalizing start with
  | nil => rfl
  | cons s ss ih =>
    rw [recordsFrom, recordsFrom, List.map_cons, List.map_cons, ih]
    congr 1
    simp only [AnnotatedSentence.records, List.mapIdx_eq_zipIdx_map, List.map_map]
    rfl

/-- **The readers agree**: the same annotated text, in the output of either pipeline, is converted to the same records
in the same sentences. Only the heads of roots differ, which are zero from Stanza and the records' own indices from
spaCy. -/
theorem readers_agree (a : AnnotatedText) {c c' : Converter} {text text' : String} (hc : c.pipeline = .stanza)
    (hc' : c'.pipeline = .spacy) (hschema : c.schema = c'.schema) (htext : Stanza.entriesOfText text = .ok a.entries)
    (htext' : Spacy.Doc.ofText text' = .ok a.doc) :
    ∃ doc doc', c.convert text = .ok doc ∧ c'.convert text' = .ok doc' ∧
      doc.sentences = (a.records fun _ => 0) ∧ doc'.sentences = (a.records fun index => index) ∧
      doc.body.mapRecords Record.headless = doc'.body.mapRecords Record.headless := by
  obtain ⟨sentences, hs, ha⟩ := exists_readSentences_entries a
  obtain ⟨sentences', hs', ha'⟩ := exists_readSentences_doc a
  refine ⟨⟨c.labelsFor none, .ofSentences c.schema (a.records fun _ => 0)⟩,
    ⟨c'.labelsFor none, .ofSentences c'.schema (a.records fun index => index)⟩, ?_, ?_,
    Body.sentences_ofSentences _ _, Body.sentences_ofSentences _ _, ?_⟩
  · exact (Converter.convert_stanza_eq_ok_iff hc).2
      ⟨a.entries, sentences, htext, hs, assemble_eq_ok_iff.2 ⟨_, ha, rfl⟩⟩
  · exact (Converter.convert_spacy_eq_ok_iff hc').2
      ⟨a.doc, sentences', htext', hs', assemble_eq_ok_iff.2 ⟨_, ha', rfl⟩⟩
  · rw [mapRecords_ofSentences, mapRecords_ofSentences, hschema, AnnotatedText.records, AnnotatedText.records,
      headless_recordsFrom (fun _ => 0) fun index => index]

/-- Two sentences with an empty one between them, in a text where characters have several bytes. -/
def sampleText : AnnotatedText where
  text := "Él ve. Yo"
  sentences := [
    { words := [
        ⟨"Él", 0, "él", "P", some "", "n", some 1, by decide⟩, ⟨"ve", 3, "ver", "V", none, "r", none, by decide⟩]
      span := ⟨0, 6⟩
      governor_lt := by decide
      holds := by decide },
    { words := []
      span := ⟨6, 6⟩
      governor_lt := by decide
      holds := by decide },
    { words := [⟨"Yo", 7, "yo", "P", some "Sg", "r", none, by decide⟩]
      span := ⟨7, 9⟩
      governor_lt := by decide
      holds := by decide }]
  occursAt := by
    have h0 : Text.OccursAt "Él ve. Yo" "Él" 0 := ⟨"", " ve. Yo", rfl, rfl⟩
    have h3 : Text.OccursAt "Él ve. Yo" "ve" 3 := ⟨"Él ", ". Yo", rfl, rfl⟩
    have h7 : Text.OccursAt "Él ve. Yo" "Yo" 7 := ⟨"Él ve. ", "", rfl, rfl⟩
    simp [h0, h3, h7]
  apart := by decide

/-- The text as Stanza writes it, with the entries as lists of their fields. -/
def sampleEntries : String :=
  "[[[1,\"Él\",\"él\",\"P\",\"\",2,\"n\",0,null],[2,\"ve\",\"ver\",\"V\",null,0,\"r\",3,null]],[],
    [[1,\"Yo\",\"yo\",\"P\",\"Sg\",0,\"r\",7,null]]]"

/-- The text as spaCy writes it, with the tokens as lists of their fields. -/
def sampleTokens : String :=
  "\x7b\"text\":\"Él ve. Yo\",\"sents\":[[0,6],[6,6],[7,9]],\"tokens\":[[0,0,2,\"P\",\"\",\"él\",\"n\",1],
    [1,3,5,\"V\",null,\"ver\",\"r\",1],[2,7,9,\"P\",\"Sg\",\"yo\",\"r\",2]]\x7d"

theorem sampleText_agrees :
    Stanza.entriesOfText sampleEntries = .ok sampleText.entries ∧ Spacy.Doc.ofText sampleTokens = .ok sampleText.doc ∧
      ∃ doc doc', (⟨.stanza, "1.9.2", .grouped, [], none⟩ : Converter).convert sampleEntries = .ok doc ∧
        (⟨.spacy, "3.7.5", .grouped, [], none⟩ : Converter).convert sampleTokens = .ok doc' ∧
        doc.sentences = (sampleText.records fun _ => 0) ∧ doc'.sentences = (sampleText.records fun index => index) ∧
        doc.body.mapRecords Record.headless = doc'.body.mapRecords Record.headless := by
  have htext : Stanza.entriesOfText sampleEntries = .ok sampleText.entries := eq_ok_of_toOption (by decide +kernel)
  have htext' : Spacy.Doc.ofText sampleTokens = .ok sampleText.doc := eq_ok_of_toOption (by decide +kernel)
  exact ⟨htext, htext', readers_agree sampleText rfl rfl rfl htext htext'⟩

end WordRecords
