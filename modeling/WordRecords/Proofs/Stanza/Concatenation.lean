import WordRecords.Proofs.Converter

/-!
# Conversions of concatenations

Nothing but the running numbers passes from one sentence of Stanza output to the next. What is made of two lists of
sentences in a row are therefore the sentences of the first one and, behind them, those of the second one with their
numbers raised (`convertEntries_append`).

The records are numbered by recursion from any first number on. `recordSentences_append` and `recordSentences_add` say
what that means for a list in two parts.
-/

namespace WordRecords

/-! ### Numbers raised -/

/-- The record with its number raised. -/
def Record.raise (k : Nat) (r : Record) : Record := { r with id := r.id + k }

/-- The sentence with its number and those of its records raised. -/
def Sentence.raise (records sentences : Nat) (s : Sentence) : Sentence :=
  ⟨s.id + sentences, s.records.map (Record.raise records)⟩

/-- The body with the numbers of its records and of its sentences, if they have any, raised. -/
def Body.raise (records sentences : Nat) : Body → Body
  | .grouped ss => .grouped (ss.map (Sentence.raise records sentences))
  | .flat ss => .flat (ss.map (List.map (Record.raise records)))

/-- A body of the sentences of two others, in the schema of both. -/
inductive Body.Joins : Body → Body → Body → Prop
  /-- Sentences with numbers. -/
  | grouped (ss ss' : List Sentence) : Joins (.grouped ss) (.grouped ss') (.grouped (ss ++ ss'))
  /-- Bare sentences. -/
  | flat (ss ss' : List (List Record)) : Joins (.flat ss) (.flat ss') (.flat (ss ++ ss'))

/-- A document of the sentences of two others. The numbers of the second one go on where those of the first one end. -/
def Document.Joins (first second whole : Document) : Prop :=
  whole.labels = first.labels ∧
    Body.Joins first.body (second.body.raise first.recordCount first.sentenceCount) whole.body

theorem ofSentences_append (schema : Schema) (rs rs' : List (List Record)) (k : Nat) :
    Body.Joins (.ofSentences schema rs) ((Body.ofSentences schema rs').raise k rs.length)
      (.ofSentences schema (rs ++ rs'.map (List.map (Record.raise k)))) := by
  cases schema with
  | flat => exact .flat _ _
  | grouped =>
    have hraise : (rs'.mapIdx Sentence.mk).map (Sentence.raise k rs.length) =
        (rs'.map (List.map (Record.raise k))).mapIdx fun i s => ⟨i + rs.length, s⟩ := by
      refine List.ext_getElem? fun i => ?_
      simp only [List.getElem?_map, List.getElem?_mapIdx, Option.map_map]
      rfl
    rw [Body.ofSentences, Body.ofSentences, Body.ofSentences, Body.raise, List.mapIdx_append, hraise]
    exact .grouped _ _

theorem joins_ofSentences (schema : Schema) (labels : List String) (rs rs' : List (List Record)) :
    Document.Joins ⟨labels, .ofSentences schema rs⟩ ⟨labels, .ofSentences schema rs'⟩
      ⟨labels, .ofSentences schema (rs ++ rs'.map (List.map (Record.raise rs.flatten.length)))⟩ := by
  refine ⟨rfl, ?_⟩
  rw [Document.recordCount, Document.records, Document.sentenceCount, Document.sentences, Body.sentences_ofSentences]
  exact ofSentences_append schema rs rs' _

theorem Document.Joins.unique {first second whole whole' : Document} (h : first.Joins second whole)
    (h' : first.Joins second whole') : whole = whole' := by
  obtain ⟨labels, body⟩ := whole
  obtain ⟨labels', body'⟩ := whole'
  have hlabels : labels = labels' := h.1.trans h'.1.symm
  have hbody : body = body' := by
    have hb := h.2
    have hb' := h'.2
    generalize first.body = b at hb hb'
    generalize second.body.raise first.recordCount first.sentenceCount = b' at hb hb'
    cases hb <;> cases hb' <;> rfl
  rw [hlabels, hbody]

/-! ### Records of two lists -/

theorem recordSentence_add (start k : Nat) (words : List AnchoredWord) :
    recordSentence (start + k) words = (recordSentence start words).map (Record.raise k) := by
  refine List.ext_getElem? fun i => ?_
  rw [List.getElem?_map, getElem?_recordSentence, getElem?_recordSentence, Option.map_map, Nat.add_right_comm]
  rfl

theorem recordSentences_add (start k : Nat) (ws : List (List AnchoredWord)) :
    recordSentences (start + k) ws = (recordSentences start ws).map (List.map (Record.raise k)) := by
  induction ws generalizing start with
  | nil => rfl
  | cons words later ih =>
    rw [recordSentences, recordSentences, List.map_cons, recordSentence_add, Nat.add_right_comm, ih]

theorem assembleSentences_append_eq_ok_iff {us us' : List UnitSentence} {records : List (List Record)} :
    assembleSentences (us ++ us') = .ok records ↔
      ∃ rs rs', assembleSentences us = .ok rs ∧ assembleSentences us' = .ok rs' ∧
        records = rs ++ rs'.map (List.map (Record.raise rs.flatten.length)) := by
  have hraise : ∀ ws ws', recordSentences 0 (ws ++ ws') = recordSentences 0 ws ++
      (recordSentences 0 ws').map (List.map (Record.raise (recordSentences 0 ws).flatten.length)) := by
    intro ws ws'
    rw [recordSentences_append, recordSentences_add]
  simp only [assembleSentences_eq_ok_iff]
  constructor
  · rintro ⟨_, h, rfl⟩
    obtain ⟨ws, ws', hws, hws', rfl⟩ := exists_append_of_forall₂ h
    exact ⟨_, _, ⟨ws, hws, rfl⟩, ⟨ws', hws', rfl⟩, hraise ws ws'⟩
  · rintro ⟨_, _, ⟨ws, hws, rfl⟩, ⟨ws', hws', rfl⟩, rfl⟩
    exact ⟨ws ++ ws', List.rel_append hws hws', (hraise ws ws').symm⟩

/-! ### Conversions -/

namespace Stanza

theorem readSentences_append_eq_ok_iff {ss ss' : List (List Entry)} {us : List UnitSentence} :
    readSentences (ss ++ ss') = .ok us ↔
      ∃ front behind, readSentences ss = .ok front ∧ readSentences ss' = .ok behind ∧ us = front ++ behind :=
  mapM_append_eq_ok_iff

theorem readSentences_append_of_error {ss : List (List Entry)} {p : Problem} (h : readSentences ss = .error p)
    (ss' : List (List Entry)) : readSentences (ss ++ ss') = .error p := by
  rw [readSentences] at h
  rw [readSentences, List.mapM_append, h]
  rfl

theorem convertEntries_eq_ok_iff {c : Converter} {ss : List (List Entry)} {doc : Document} :
    c.convertEntries ss = .ok doc ↔
      ∃ us rs, readSentences ss = .ok us ∧ assembleSentences us = .ok rs ∧
        doc = ⟨c.labelsFor none, .ofSentences c.schema rs⟩ := by
  simp only [Converter.convertEntries, bind_eq_ok_iff, mapError_eq_ok_iff, assemble_eq_ok_iff]
  constructor
  · rintro ⟨us, hus, rs, hrs, hdoc⟩
    exact ⟨us, rs, hus, hrs, hdoc⟩
  · rintro ⟨us, rs, hus, hrs, hdoc⟩
    exact ⟨us, hus, rs, hrs, hdoc⟩

/-- The parts of a document of two lists of sentences are the documents of the lists. -/
theorem convertEntries_append_eq_ok_iff {c : Converter} {ss ss' : List (List Entry)} {doc : Document} :
    c.convertEntries (ss ++ ss') = .ok doc ↔
      ∃ first second, c.convertEntries ss = .ok first ∧ c.convertEntries ss' = .ok second ∧ first.Joins second doc := by
  constructor
  · intro h
    obtain ⟨_, _, hus, hrs, rfl⟩ := convertEntries_eq_ok_iff.1 h
    obtain ⟨us, us', hread, hread', rfl⟩ := readSentences_append_eq_ok_iff.1 hus
    obtain ⟨rs, rs', hrec, hrec', rfl⟩ := assembleSentences_append_eq_ok_iff.1 hrs
    exact ⟨_, _, convertEntries_eq_ok_iff.2 ⟨us, rs, hread, hrec, rfl⟩,
      convertEntries_eq_ok_iff.2 ⟨us', rs', hread', hrec', rfl⟩, joins_ofSentences _ _ rs rs'⟩
  · rintro ⟨first, second, hfirst, hsecond, hjoins⟩
    obtain ⟨us, rs, hread, hrec, rfl⟩ := convertEntries_eq_ok_iff.1 hfirst
    obtain ⟨us', rs', hread', hrec', rfl⟩ := convertEntries_eq_ok_iff.1 hsecond
    rw [hjoins.unique (joins_ofSentences _ _ rs rs')]
    exact convertEntries_eq_ok_iff.2 ⟨us ++ us', _, readSentences_append_eq_ok_iff.2 ⟨us, us', hread, hread', rfl⟩,
      assembleSentences_append_eq_ok_iff.2 ⟨rs, rs', hrec, hrec', rfl⟩, rfl⟩

/-- **Conversion of Stanza output goes sentence by sentence.** Two lists of sentences in a row are converted exactly
when both lists are. The document has the sentences of the first list's document and then those of the second list's
one, whose numbers go on where the first ones end, and nothing else is different. What the reader says against the first
list it says against both. -/
theorem convertEntries_append {c : Converter} (hc : c.pipeline = .stanza) (ss ss' : List (List Entry)) :
    ((∃ doc, c.convertEntries (ss ++ ss') = .ok doc) ↔
        (∃ first, c.convertEntries ss = .ok first) ∧ ∃ second, c.convertEntries ss' = .ok second) ∧
      (∀ doc first second, c.convertEntries (ss ++ ss') = .ok doc → c.convertEntries ss = .ok first →
        c.convertEntries ss' = .ok second → first.Joins second doc) ∧
      (∀ p, readSentences ss = .error p →
        readSentences (ss ++ ss') = .error p ∧ c.convertEntries ss = .error (.output (.stanza p)) ∧
          c.convertEntries (ss ++ ss') = .error (.output (.stanza p))) ∧
      ∀ text entries, entriesOfText text = .ok entries → c.convert text = c.convertEntries entries := by
  refine ⟨⟨?_, ?_⟩, ?_, fun p hp => ⟨readSentences_append_of_error hp ss', ?_, ?_⟩,
    fun _ _ he => Converter.convert_eq_convertEntries hc he⟩
  · rintro ⟨doc, h⟩
    obtain ⟨first, second, hfirst, hsecond, -⟩ := convertEntries_append_eq_ok_iff.1 h
    exact ⟨⟨first, hfirst⟩, second, hsecond⟩
  · rintro ⟨⟨first, hfirst⟩, second, hsecond⟩
    obtain ⟨us, rs, -, -, rfl⟩ := convertEntries_eq_ok_iff.1 hfirst
    obtain ⟨us', rs', -, -, rfl⟩ := convertEntries_eq_ok_iff.1 hsecond
    exact ⟨_, convertEntries_append_eq_ok_iff.2 ⟨_, _, hfirst, hsecond, joins_ofSentences _ _ rs rs'⟩⟩
  · intro doc first second h hfirst hsecond
    obtain ⟨first', second', hfirst', hsecond', hjoins⟩ := convertEntries_append_eq_ok_iff.1 h
    obtain rfl := Except.ok.inj (hfirst.symm.trans hfirst')
    obtain rfl := Except.ok.inj (hsecond.symm.trans hsecond')
    exact hjoins
  · rw [Converter.convertEntries, hp]
    rfl
  · rw [Converter.convertEntries, readSentences_append_of_error hp]
    rfl

/-- A word and an empty sentence. -/
def openingSentences : List (List Entry) :=
  [[⟨.number 1, some "Sí", some "sí", some "INTJ", none, some 0, some "root", some 0, none⟩], []]

/-- A token of two words. -/
def closingSentences : List (List Entry) :=
  [[⟨.list [1, 2], some "del", none, none, none, none, none, some 4, none⟩,
    ⟨.number 1, none, some "de", some "P", none, some 2, some "case", none, none⟩,
    ⟨.number 2, none, some "el", some "D", none, some 0, some "det", none, none⟩]]

/-- The document of both. -/
def joinedDocument : Document :=
  ⟨["stanza-1.9.2"], .grouped [
    ⟨0, [⟨0, "INTJ", "INTJ", "root", 0, "Sí", 0, 0, "sí"⟩]⟩, ⟨1, []⟩,
    ⟨2, [⟨1, "P", "P", "case", 1, "del", 4, 0, "de"⟩, ⟨2, "D", "D", "det", 0, "del", 4, 1, "el"⟩]⟩]⟩

def joiningConverter : Converter := ⟨.stanza, "1.9.2", .grouped, [], none⟩

theorem convertEntries_joinedDocument :
    joiningConverter.pipeline = .stanza ∧
      joiningConverter.convertEntries (openingSentences ++ closingSentences) = .ok joinedDocument ∧
      ∃ first second, joiningConverter.convertEntries openingSentences = .ok first ∧
        joiningConverter.convertEntries closingSentences = .ok second ∧ first.Joins second joinedDocument := by
  have h : joiningConverter.convertEntries (openingSentences ++ closingSentences) = .ok joinedDocument :=
    eq_ok_of_toOption (by decide +kernel)
  have hc : joiningConverter.pipeline = .stanza := rfl
  obtain ⟨hiff, hjoins, -⟩ := convertEntries_append hc openingSentences closingSentences
  obtain ⟨⟨first, hfirst⟩, second, hsecond⟩ := hiff.1 ⟨_, h⟩
  exact ⟨hc, h, first, second, hfirst, hsecond, hjoins _ _ _ h hfirst hsecond⟩

end Stanza

end WordRecords
