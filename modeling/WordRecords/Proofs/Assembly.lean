import WordRecords.Assembly
import WordRecords.Proofs.Document.Canonical
import WordRecords.Proofs.Steps
import WordRecords.Proofs.Text.LowerCase

/-!
# What assembly guarantees

The records of an assembled document stand for the words of its units, one for one and in order
(`records_of_assembleSentences`). They are numbered without gaps, by positions that restart in every sentence, and all
their lemmas and dependency relations are lower-cased, so that every assembled document is orderly
(`orderly_of_assemble`): only governors are left for the readers to care for.
-/

namespace WordRecords

/-- The words of a sentence of units, in order. -/
def flatWordsOf (units : UnitSentence) : List FlatWord := units.flatMap SurfaceUnit.flatWords

/-! ### Anchored words -/

theorem anchor_eq_ok_iff {unit : SurfaceUnit} {words : List AnchoredWord} :
    unit.anchor = .ok words ↔
      ∃ idx, unit.offset.resolve? = some idx ∧ words = unit.flatWords.map fun flat => ⟨flat, unit.text, idx⟩ := by
  rw [SurfaceUnit.anchor]
  cases unit.offset.resolve? with
  | none =>
    constructor
    · intro h
      cases h
    · rintro ⟨_, h, -⟩
      cases h
  | some idx =>
    constructor
    · intro h
      cases h
      exact ⟨idx, rfl, rfl⟩
    · rintro ⟨_, h, rfl⟩
      cases h
      rfl

theorem flat_anchor {unit : SurfaceUnit} {words : List AnchoredWord} (h : unit.anchor = .ok words) :
    words.map AnchoredWord.flat = unit.flatWords := by
  obtain ⟨idx, -, rfl⟩ := anchor_eq_ok_iff.1 h
  rw [List.map_map]
  exact List.map_id _

theorem anchorSentence_eq_ok_iff {units : UnitSentence} {words : List AnchoredWord} :
    anchorSentence units = .ok words ↔
      ∃ parts, List.Forall₂ (fun unit part => unit.anchor = .ok part) units parts ∧ words = parts.flatten := by
  rw [anchorSentence, bind_eq_ok_iff]
  refine exists_congr fun parts => ?_
  rw [mapM_eq_ok_iff]
  refine and_congr_right fun _ => ?_
  constructor
  · intro h
    cases h
    rfl
  · rintro rfl
    rfl

theorem flat_anchorSentence {units : UnitSentence} {words : List AnchoredWord} (h : anchorSentence units = .ok words) :
    words.map AnchoredWord.flat = flatWordsOf units := by
  obtain ⟨parts, hp, rfl⟩ := anchorSentence_eq_ok_iff.1 h
  rw [List.map_flatten, flatWordsOf, List.flatMap_def]
  congr 1
  clear h
  induction hp with
  | nil => rfl
  | cons hu _ ih => rw [List.map_cons, List.map_cons, flat_anchor hu, ih]

/-! ### Records of a sentence -/

section Sentence

variable (start : Nat) (words : List AnchoredWord)

theorem getElem?_recordSentence (i : Nat) :
    (recordSentence start words)[i]? = words[i]?.map fun w => w.flat.toRecord (start + i) i w.text w.idx :=
  List.getElem?_mapIdx

theorem length_recordSentence : (recordSentence start words).length = words.length := List.length_mapIdx

theorem ids_recordSentence : (recordSentence start words).map Record.id = List.range' start words.length :=
  map_mapIdx_eq_range' fun _ _ => rfl

theorem indices_recordSentence : (recordSentence start words).map Record.index = List.range words.length := by
  rw [List.range_eq_range']
  exact map_mapIdx_eq_range' fun i _ => (Nat.zero_add i).symm

theorem heads_recordSentence :
    (recordSentence start words).map Record.head = (words.map AnchoredWord.flat).map FlatWord.head := by
  refine List.ext_getElem? fun i => ?_
  rw [List.getElem?_map, getElem?_recordSentence, List.getElem?_map, List.getElem?_map, Option.map_map, Option.map_map]
  rfl

theorem forall₂_recordSentence :
    List.Forall₂ (fun w r => ∃ id index, r = w.flat.toRecord id index w.text w.idx) words
      (recordSentence start words) := by
  refine List.forall₂_iff_get.2 ⟨(length_recordSentence start words).symm, fun i _ _ => ⟨start + i, i, ?_⟩⟩
  simp [recordSentence]

variable {start words}

/-- A record stands for a word. -/
theorem exists_of_mem_recordSentence {r : Record} (h : r ∈ recordSentence start words) :
    ∃ w ∈ words, ∃ i, r = w.flat.toRecord (start + i) i w.text w.idx := by
  obtain ⟨i, hi, rfl⟩ := List.mem_mapIdx.1 h
  exact ⟨words[i], List.getElem_mem hi, i, rfl⟩

end Sentence

/-! ### Records of all sentences -/

/-- Every sentence of records comes from its sentence of words. -/
theorem forall₂_recordSentences (start : Nat) (ws : List (List AnchoredWord)) :
    List.Forall₂ (fun words records => ∃ start, records = recordSentence start words) ws
      (recordSentences start ws) := by
  induction ws generalizing start with
  | nil => exact .nil
  | cons words later ih => exact .cons ⟨start, rfl⟩ (ih _)

/-- The numbers run on from one sentence to the next. -/
theorem ids_recordSentences (start : Nat) (ws : List (List AnchoredWord)) :
    (recordSentences start ws).flatten.map Record.id = List.range' start (recordSentences start ws).flatten.length := by
  induction ws generalizing start with
  | nil => rfl
  | cons words later ih =>
    rw [recordSentences, List.flatten_cons, List.map_append, ids_recordSentence, ih, List.length_append,
      length_recordSentence, List.range'_append_1]

theorem recordSentences_append (start : Nat) (ws ws' : List (List AnchoredWord)) :
    recordSentences start (ws ++ ws') =
      recordSentences start ws ++ recordSentences (start + (recordSentences start ws).flatten.length) ws' := by
  induction ws generalizing start with
  | nil => rfl
  | cons words later ih =>
    rw [List.cons_append, recordSentences, ih, recordSentences, List.flatten_cons, List.length_append,
      length_recordSentence, Nat.add_assoc, List.cons_append]

/-! ### Assembled documents -/

theorem assembleSentences_eq_ok_iff {sentences : List UnitSentence} {records : List (List Record)} :
    assembleSentences sentences = .ok records ↔
      ∃ ws, List.Forall₂ (fun units words => anchorSentence units = .ok words) sentences ws ∧
        records = recordSentences 0 ws := by
  rw [assembleSentences, bind_eq_ok_iff]
  refine exists_congr fun ws => ?_
  rw [mapM_eq_ok_iff]
  refine and_congr_right fun _ => ?_
  constructor
  · intro h
    cases h
    rfl
  · rintro rfl
    rfl

/-- Labels and schema come in when the records are there. -/
theorem assemble_eq_map (schema : Schema) (labels : List String) (sentences : List UnitSentence) :
    assemble schema labels sentences =
      (assembleSentences sentences).map fun records => ⟨labels, .ofSentences schema records⟩ := by
  rw [assemble]
  cases assembleSentences sentences with
  | error p => rfl
  | ok records => rfl

theorem assemble_eq_ok_iff {schema : Schema} {labels : List String} {sentences : List UnitSentence} {doc : Document} :
    assemble schema labels sentences = .ok doc ↔
      ∃ records, assembleSentences sentences = .ok records ∧ doc = ⟨labels, .ofSentences schema records⟩ := by
  rw [assemble, bind_eq_ok_iff]
  refine exists_congr fun records => and_congr_right fun _ => ?_
  constructor
  · intro h
    cases h
    rfl
  · rintro rfl
    rfl

/-- **The records stand for the words of the units**, sentence by sentence. -/
theorem records_of_assembleSentences {sentences : List UnitSentence} {records : List (List Record)}
    (h : assembleSentences sentences = .ok records) :
    List.Forall₂ (fun units rs => ∃ start words, words.map AnchoredWord.flat = flatWordsOf units ∧
      rs = recordSentence start words) sentences records := by
  obtain ⟨ws, hws, rfl⟩ := assembleSentences_eq_ok_iff.1 h
  refine (forall₂_comp hws (forall₂_recordSentences 0 ws)).imp ?_
  rintro units rs ⟨words, hw, start, rfl⟩
  exact ⟨start, words, flat_anchorSentence hw, rfl⟩

theorem sentences_of_assemble {schema : Schema} {labels : List String} {sentences : List UnitSentence} {doc : Document}
    (h : assemble schema labels sentences = .ok doc) : assembleSentences sentences = .ok doc.sentences := by
  obtain ⟨records, hr, rfl⟩ := assemble_eq_ok_iff.1 h
  rw [hr]
  exact congrArg Except.ok (Body.sentences_ofSentences schema records).symm

/-- **Assembled documents are orderly**, whatever the units are. -/
theorem orderly_of_assemble {schema : Schema} {labels : List String} {sentences : List UnitSentence} {doc : Document}
    (h : assemble schema labels sentences = .ok doc) : doc.Orderly := by
  have hs := sentences_of_assemble h
  have hmem : ∀ r ∈ doc.records, ∃ w : FlatWord, r.lemmaForm = w.lemmaForm ∧ r.dep = w.dep := by
    intro r hr
    obtain ⟨rs, hrs, hr⟩ := List.mem_flatten.1 hr
    obtain ⟨units, -, start, words, -, rfl⟩ := exists_of_mem_right (records_of_assembleSentences hs) hrs
    obtain ⟨w, -, i, rfl⟩ := exists_of_mem_recordSentence hr
    exact ⟨w.flat, rfl, rfl⟩
  constructor
  · intro ss hss
    obtain ⟨records, -, rfl⟩ := assemble_eq_ok_iff.1 h
    exact ids_ofSentences hss
  · obtain ⟨ws, -, hrec⟩ := assembleSentences_eq_ok_iff.1 hs
    rw [Document.recordCount, Document.records, hrec, ids_recordSentences, List.range_eq_range']
  · intro rs hrs
    obtain ⟨units, -, start, words, -, rfl⟩ := exists_of_mem_right (records_of_assembleSentences hs) hrs
    rw [indices_recordSentence, length_recordSentence]
  · intro r hr
    obtain ⟨w, hw, -⟩ := hmem r hr
    rw [hw]
    exact Text.isLowerCase_lowerCase _
  · intro r hr
    obtain ⟨w, -, hw⟩ := hmem r hr
    rw [hw]
    exact Text.isLowerCase_lowerCase _

end WordRecords
