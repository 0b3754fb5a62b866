import WordRecords.Converter
import WordRecords.Proofs.Assembly

/-!
# The document of given units

`assemble_records` says all of it. There is a document exactly when every unit gives its offset, as a number or among
its other data (`OffsetHint.Gives`); otherwise the first unit without one is reported, wherever it stands. The document
has the labels, the schema, and a sentence for every sentence of units, and in it one record for every word of every
unit, in order, numbered through the sentence and through the document (`Lists`).
-/

namespace WordRecords

/-! ### Units with an offset -/

/-- The hint gives an offset: the number or, where there is none, the offset field among the other data. -/
def OffsetHint.Gives (hint : OffsetHint) (idx : Nat) : Prop :=
  hint.startChar = some idx ∨ hint.startChar = none ∧ ∃ misc, hint.misc = some misc ∧ startChar? misc = some idx

def SurfaceUnit.Located (unit : SurfaceUnit) : Prop := ∃ idx, unit.offset.Gives idx

theorem resolve?_eq_some_iff {hint : OffsetHint} {idx : Nat} : hint.resolve? = some idx ↔ hint.Gives idx := by
  rw [OffsetHint.resolve?, OffsetHint.Gives]
  cases hint.startChar with
  | some n => simp
  | none => simp [Option.bind_eq_some_iff]

theorem OffsetHint.Gives.unique {hint : OffsetHint} {idx idx' : Nat} (h : hint.Gives idx) (h' : hint.Gives idx') :
    idx = idx' := by
  rw [← resolve?_eq_some_iff] at h h'
  exact Option.some.inj (h.symm.trans h')

theorem exists_anchor_iff {unit : SurfaceUnit} : (∃ words, unit.anchor = .ok words) ↔ unit.Located := by
  simp only [anchor_eq_ok_iff, resolve?_eq_some_iff, SurfaceUnit.Located]
  constructor
  · rintro ⟨_, idx, h, -⟩
    exact ⟨idx, h⟩
  · rintro ⟨idx, h⟩
    exact ⟨_, idx, h, rfl⟩

theorem anchor_eq_error_iff {unit : SurfaceUnit} {text : String} :
    unit.anchor = .error text ↔ ¬unit.Located ∧ text = unit.text := by
  rw [← exists_anchor_iff, SurfaceUnit.anchor]
  cases unit.offset.resolve? with
  | some idx => exact iff_of_false (by rintro ⟨⟩) fun h => h.1 ⟨_, rfl⟩
  | none =>
    rw [Except.error.injEq, eq_comm]
    refine (and_iff_right ?_).symm
    rintro ⟨_, ⟨⟩⟩

/-! ### Success and failure -/

theorem exists_assembleSentences_iff {sentences : List UnitSentence} :
    (∃ records, assembleSentences sentences = .ok records) ↔ ∀ units ∈ sentences, ∀ unit ∈ units, unit.Located := by
  have hsentence : ∀ units : UnitSentence,
      (∃ words, anchorSentence units = .ok words) ↔ ∀ unit ∈ units, unit.Located := by
    intro units
    simp only [anchorSentence_eq_ok_iff, ← exists_anchor_iff, ← exists_forall₂_iff]
    constructor
    · rintro ⟨_, parts, hparts, -⟩
      exact ⟨parts, hparts⟩
    · rintro ⟨parts, hparts⟩
      exact ⟨_, parts, hparts, rfl⟩
  simp only [assembleSentences_eq_ok_iff, ← hsentence, ← exists_forall₂_iff]
  constructor
  · rintro ⟨_, ws, hws, -⟩
    exact ⟨ws, hws⟩
  · rintro ⟨ws, hws⟩
    exact ⟨_, ws, hws, rfl⟩

theorem anchorSentence_eq_map (units : UnitSentence) :
    anchorSentence units = (units.mapM SurfaceUnit.anchor).map List.flatten := by
  rw [anchorSentence]
  cases units.mapM SurfaceUnit.anchor with
  | error _ => rfl
  | ok _ => rfl

theorem assembleSentences_eq_map (sentences : List UnitSentence) :
    assembleSentences sentences = (sentences.mapM anchorSentence).map (recordSentences 0) := by
  rw [assembleSentences]
  cases sentences.mapM anchorSentence with
  | error _ => rfl
  | ok _ => rfl

theorem anchorSentence_append (units units' : UnitSentence) :
    anchorSentence (units ++ units') =
      (anchorSentence units >>= fun words => (anchorSentence units').map fun words' => words ++ words') := by
  simp only [anchorSentence_eq_map, List.mapM_append]
  cases units.mapM SurfaceUnit.anchor with
  | error _ => rfl
  | ok parts =>
    cases units'.mapM SurfaceUnit.anchor with
    | error _ => rfl
    | ok parts' => exact congrArg Except.ok List.flatten_append

/-- All units in one sentence have the words of their sentences. -/
theorem anchorSentence_flatten (sentences : List UnitSentence) :
    anchorSentence sentences.flatten = (sentences.mapM anchorSentence).map List.flatten := by
  induction sentences with
  | nil => rfl
  | cons units later ih =>
    rw [List.mapM_cons, List.flatten_cons, anchorSentence_append, ih]
    cases anchorSentence units with
    | error _ => rfl
    | ok words =>
      cases later.mapM anchorSentence with
      | error _ => rfl
      | ok _ => rfl

theorem assembleSentences_eq_error_iff {sentences : List UnitSentence} {text : String} :
    assembleSentences sentences = .error text ↔
      ∃ before unit after, sentences.flatten = before ++ unit :: after ∧ (∀ u ∈ before, u.Located) ∧
        ¬unit.Located ∧ text = unit.text := by
  have hflat : assembleSentences sentences = .error text ↔ sentences.flatten.mapM SurfaceUnit.anchor = .error text := by
    rw [assembleSentences_eq_map, map_eq_error_iff, ← map_eq_error_iff (f := List.flatten), ← anchorSentence_flatten,
      anchorSentence_eq_map, map_eq_error_iff]
  simp only [hflat, mapM_eq_error_iff, exists_anchor_iff, anchor_eq_error_iff]

/-! ### The records of a sentence -/

/-- The words of a sentence in order, each with its unit. -/
def wordsOf (units : UnitSentence) : List (SurfaceUnit × FlatWord) :=
  units.flatMap fun unit => unit.flatWords.map fun w => (unit, w)

/-- The record has the analysis of the word, and the text and the offset of the unit. -/
structure Record.Shows (r : Record) (unit : SurfaceUnit) (w : FlatWord) : Prop where
  pos : r.pos = w.word.pos
  tag : r.tag = composeTag w.word.pos w.word.features
  dep : r.dep = Text.lowerCase w.word.dep
  head : r.head = w.word.head.rebase
  lemmaForm : r.lemmaForm = Text.lowerCase w.segment
  text : r.text = unit.text
  idx : unit.offset.Gives r.idx

/-- The records are those of a sentence of units, where the first one has a given number. -/
structure Lists (start : Nat) (units : UnitSentence) (rs : List Record) : Prop where
  /-- There is one record for every word, in order. -/
  shows : List.Forall₂ (fun w r => Record.Shows r w.1 w.2) (wordsOf units) rs
  /-- The records are numbered by their places. -/
  numbers : ∀ j r, rs[j]? = some r → r.index = j ∧ r.id = start + j

/-- A word is anchored with what its unit says. -/
theorem forall₂_anchorSentence {units : UnitSentence} {words : List AnchoredWord}
    (h : anchorSentence units = .ok words) :
    List.Forall₂ (fun w a => a.flat = w.2 ∧ a.text = w.1.text ∧ w.1.offset.Gives a.idx) (wordsOf units) words := by
  obtain ⟨parts, hparts, rfl⟩ := anchorSentence_eq_ok_iff.1 h
  clear h
  induction hparts with
  | nil => exact .nil
  | cons hu _ ih =>
    obtain ⟨idx, hidx, rfl⟩ := anchor_eq_ok_iff.1 hu
    refine List.rel_append ?_ ih
    rw [List.forall₂_map_left_iff, List.forall₂_map_right_iff, List.forall₂_same]
    exact fun flat _ => ⟨rfl, rfl, resolve?_eq_some_iff.1 hidx⟩

theorem lists_recordSentence {units : UnitSentence} {words : List AnchoredWord} (h : anchorSentence units = .ok words)
    (start : Nat) : Lists start units (recordSentence start words) := by
  constructor
  · refine (forall₂_comp (forall₂_anchorSentence h) (forall₂_recordSentence start words)).imp ?_
    rintro ⟨unit, w⟩ r ⟨a, ⟨rfl, htext, hidx⟩, id, index, rfl⟩
    exact ⟨rfl, rfl, rfl, rfl, rfl, htext, hidx⟩
  · intro j r hr
    rw [getElem?_recordSentence, Option.map_eq_some_iff] at hr
    obtain ⟨a, -, rfl⟩ := hr
    exact ⟨rfl, rfl⟩

/-! ### Documents -/

/-- The records of a sentence are numbered on from those of all sentences before it. -/
theorem lists_of_assembleSentences {sentences : List UnitSentence} {records : List (List Record)}
    (h : assembleSentences sentences = .ok records) {i : Nat} {units : UnitSentence} {rs : List Record}
    (hu : sentences[i]? = some units) (hrs : records[i]? = some rs) :
    Lists (records.take i).flatten.length units rs := by
  obtain ⟨ws, hws, rfl⟩ := assembleSentences_eq_ok_iff.1 h
  obtain ⟨hi, -⟩ := List.getElem?_eq_some_iff.1 hu
  rw [hws.length_eq] at hi
  have hword := forall₂_getElem? hws hu (List.getElem?_eq_getElem hi)
  have hlen : (recordSentences 0 (ws.take i)).length = i := by
    rw [← (forall₂_recordSentences 0 (ws.take i)).length_eq, List.length_take, Nat.min_eq_left (Nat.le_of_lt hi)]
  have hsplit : recordSentences 0 ws = recordSentences 0 (ws.take i) ++
      recordSentences (recordSentences 0 (ws.take i)).flatten.length (ws[i] :: ws.drop (i + 1)) := by
    have := recordSentences_append 0 (ws.take i) (ws[i] :: ws.drop (i + 1))
    rwa [← List.drop_eq_getElem_cons hi, List.take_append_drop, Nat.zero_add, List.drop_eq_getElem_cons hi] at this
  rw [hsplit, List.getElem?_append_right (Nat.le_of_eq hlen), hlen, Nat.sub_self] at hrs
  obtain rfl := Option.some.inj hrs
  rw [hsplit, List.take_left' hlen]
  exact lists_recordSentence hword _

/-- Every record shows a word of a unit. -/
theorem exists_shows_of_mem_records {schema : Schema} {labels : List String} {sentences : List UnitSentence}
    {doc : Document} (h : assemble schema labels sentences = .ok doc) {r : Record} (hr : r ∈ doc.records) :
    ∃ unit ∈ sentences.flatten, ∃ w ∈ unit.flatWords, r.Shows unit w := by
  obtain ⟨rs, hrs, hr⟩ := List.mem_flatten.1 hr
  obtain ⟨ws, hws, hrecords⟩ := assembleSentences_eq_ok_iff.1 (sentences_of_assemble h)
  rw [hrecords] at hrs
  obtain ⟨units, hu, words, hwords, start, rfl⟩ :=
    exists_of_mem_right (forall₂_comp hws (forall₂_recordSentences 0 ws)) hrs
  obtain ⟨⟨unit, w⟩, hw, hshows⟩ := exists_of_mem_right (lists_recordSentence hwords start).shows hr
  obtain ⟨unit', hunit, hw⟩ := List.mem_flatMap.1 hw
  obtain ⟨w', hflat, heq⟩ := List.mem_map.1 hw
  cases heq
  exact ⟨unit, List.mem_flatten.2 ⟨units, hu, hunit⟩, w, hflat, hshows⟩

/-- **Assembly makes the document of the units**, or reports the first unit without an offset. -/
theorem assemble_records (schema : Schema) (labels : List String) (sentences : List UnitSentence) :
    ((∃ doc, assemble schema labels sentences = .ok doc) ↔ ∀ units ∈ sentences, ∀ unit ∈ units, unit.Located) ∧
      (∀ doc, assemble schema labels sentences = .ok doc →
        doc.labels = labels ∧ doc.body = .ofSentences schema doc.sentences ∧
          doc.sentences.length = sentences.length ∧
          ∀ i units rs, sentences[i]? = some units → doc.sentences[i]? = some rs →
            Lists (doc.sentences.take i).flatten.length units rs) ∧
      ∀ e, (assemble schema labels sentences).mapError ConversionError.missingOffset = .error e ↔
        ∃ before unit after, sentences.flatten = before ++ unit :: after ∧ (∀ u ∈ before, u.Located) ∧
          ¬unit.Located ∧ e = .missingOffset unit.text := by
  refine ⟨?_, fun doc h => ?_, fun e => ?_⟩
  · rw [← exists_assembleSentences_iff]
    simp only [assemble_eq_ok_iff]
    constructor
    · rintro ⟨_, records, hr, -⟩
      exact ⟨records, hr⟩
    · rintro ⟨records, hr⟩
      exact ⟨_, records, hr, rfl⟩
  · have hs := sentences_of_assemble h
    have hbody : doc.labels = labels ∧ doc.body = .ofSentences schema doc.sentences := by
      obtain ⟨records, -, rfl⟩ := assemble_eq_ok_iff.1 h
      exact ⟨rfl, congrArg (Body.ofSentences schema) (Body.sentences_ofSentences schema records).symm⟩
    refine ⟨hbody.1, hbody.2, (records_of_assembleSentences hs).length_eq.symm, fun i units rs hu hrs => ?_⟩
    exact lists_of_assembleSentences hs hu hrs
  · simp only [mapError_eq_error_iff, assemble_eq_map, map_eq_error_iff, assembleSentences_eq_error_iff]
    constructor
    · rintro ⟨_, ⟨before, unit, after, hsplit, hbefore, hunit, rfl⟩, rfl⟩
      exact ⟨before, unit, after, hsplit, hbefore, hunit, rfl⟩
    · rintro ⟨before, unit, after, hsplit, hbefore, hunit, rfl⟩
      exact ⟨_, ⟨before, unit, after, hsplit, hbefore, hunit, rfl⟩, rfl⟩

/-- A contraction, an empty sentence, and a unit without words before one whose lemma lists two. -/
def mingledUnits : List UnitSentence :=
  [[⟨"del", ⟨none, some "SpaceAfter=No|start_char=3"⟩, .explicit
      [⟨1, "ADP", none, "case", .oneBased 3, "de"⟩, ⟨2, "DET", some "Gender=Masc", "det", .oneBased 3, "el"⟩]⟩],
    [],
    [⟨"", ⟨some 7, none⟩, .explicit []⟩,
      ⟨"dímelo", ⟨some 8, some "start_char=99"⟩, .lemmaSeparated
        ⟨9, "VERB", none, "ROOT", .absolute 9 9, "Decir él"⟩⟩]]

def mingledDocument : Document :=
  ⟨["es"], .grouped [
    ⟨0, [⟨0, "ADP", "ADP", "case", 2, "del", 3, 0, "de"⟩, ⟨1, "DET", "DET__Gender=Masc", "det", 2, "del", 3, 1, "el"⟩]⟩,
    ⟨1, []⟩,
    ⟨2, [⟨2, "VERB", "VERB", "root", 0, "dímelo", 8, 0, "decir"⟩,
      ⟨3, "VERB", "VERB", "root", 0, "dímelo", 8, 1, "él"⟩]⟩]⟩

theorem assemble_mingledUnits :
    assemble .grouped ["es"] mingledUnits = .ok mingledDocument ∧
      (∀ units ∈ mingledUnits, ∀ unit ∈ units, unit.Located) ∧
      ∃ units rs, mingledUnits[2]? = some units ∧ mingledDocument.sentences[2]? = some rs ∧ Lists 2 units rs := by
  have h : assemble .grouped ["es"] mingledUnits = .ok mingledDocument := eq_ok_of_toOption (by decide +kernel)
  obtain ⟨hok, hdoc, -⟩ := assemble_records .grouped ["es"] mingledUnits
  exact ⟨h, hok.1 ⟨_, h⟩, _, _, rfl, rfl, (hdoc _ h).2.2.2 2 _ _ rfl rfl⟩

end WordRecords
