import WordRecords.Proofs.Assembly.Records
import WordRecords.Proofs.Converter
import WordRecords.Proofs.Spacy.Segmentation

/-!
# Tokens, their units, and their records

Whatever the order of tokens and spans is, a document that is read has one unit for every token, in the order of the
tokens, and one sentence for every span (`readSentences_units`). The governor of a token comes with the first token of
its own sentence, since this is the one that the sentence was begun with.

The text of a unit is cut out of the text of the document at the offset of its token. Text and offset go on to all
records of the unit, so that every record says where in the document it stands (`convert_anchored`).
-/

namespace WordRecords.Spacy

/-! ### Units of tokens -/

/-- The word has the number and the analysis of the token, in a sentence that begins with a given token. -/
structure Token.GivesWord (start : Nat) (t : Token) (w : Word) : Prop where
  nativeId : w.nativeId = t.id
  pos : t.pos = some w.pos
  /-- Empty features are as good as none. -/
  features : ∀ features, w.features = some features ↔ t.morph = some features ∧ features ≠ ""
  dep : t.dep = some w.dep
  head : ∃ head, t.head = some head ∧ w.head = .absolute head start
  lemmaForm : t.lemmaForm = some w.lemmaForm

/-- The unit is that of a token of a text, in a sentence that begins with a given token. -/
structure Token.GivesUnit (s : String) (start : Nat) (t : Token) (unit : SurfaceUnit) : Prop where
  /-- Its text stands between the offsets of the token. -/
  text : Text.OccursAt s unit.text t.start ∧ t.start + unit.text.length = t.stop
  offset : unit.offset = ⟨some t.start, none⟩
  /-- The lemma of its only analysis may list several words. -/
  word : ∃ w, unit.decomposition = .lemmaSeparated w ∧ t.GivesWord start w

theorem givesUnit_of_makesUnit {d : Doc} {start : Nat} {t : Token} {unit : SurfaceUnit}
    (h : MakesUnit d.cut start t unit) : t.GivesUnit d.text start unit := by
  obtain ⟨text, hcut, hunit⟩ := h
  obtain ⟨head, pos, dep, lemmaForm, hh, hp, hd, hl, rfl⟩ := toUnit_eq_ok_iff.1 hunit
  refine ⟨Text.occursAt_of_slice? hcut, rfl, _, rfl, rfl, hp, fun features => ?_, hd, ⟨head, hh, rfl⟩, hl⟩
  simp [Option.filter_eq_some_iff]

/-- The units of a sentence that was read are those of the tokens of a group, and the groups hold all tokens. -/
theorem givesUnit_groups {d : Doc} {sentences : List UnitSentence} (h : readSentences d = .ok sentences) :
    d.groups.flatten = d.tokens ∧
      List.Forall₂ (fun ts units => List.Forall₂ (Token.GivesUnit d.text (firstId ts)) ts units) d.groups
        sentences := by
  obtain ⟨hnil, hgroups⟩ := readSentences_eq_ok_iff.1 h
  refine ⟨flatten_groups hnil, hgroups.imp fun ts units hunits => ?_⟩
  exact hunits.imp fun t unit hu => givesUnit_of_makesUnit hu

/-- All units, in order, are those of all tokens. -/
theorem givesUnit_tokens {d : Doc} {sentences : List UnitSentence} (h : readSentences d = .ok sentences) :
    List.Forall₂ (fun t unit => ∃ start, t.GivesUnit d.text start unit) d.tokens sentences.flatten := by
  obtain ⟨hflat, hgroups⟩ := givesUnit_groups h
  rw [← hflat]
  refine List.rel_flatten (hgroups.imp fun ts units hunits => ?_)
  exact hunits.imp fun t unit hu => ⟨firstId ts, hu⟩

/-- **Every token makes one unit.** In order, the units of all sentences are those of the tokens, the sentences are as
many as the spans, and every unit knows the first token of its own sentence. -/
theorem readSentences_units {d : Doc} {sentences : List UnitSentence} (h : readSentences d = .ok sentences) :
    sentences.length = d.sentenceCount ∧
      List.Forall₂ (fun t unit => ∃ start, t.GivesUnit d.text start unit) d.tokens sentences.flatten ∧
      ∃ groups : List (List Token), groups.flatten = d.tokens ∧
        List.Forall₂ (fun ts units => List.Forall₂ (Token.GivesUnit d.text (firstId ts)) ts units) groups
          sentences := by
  refine ⟨?_, givesUnit_tokens h, d.groups, givesUnit_groups h⟩
  rw [← (givesUnit_groups h).2.length_eq, length_groups]

/-- Spans that overlap, one of them empty, and tokens that go back in the text and are numbered at random. -/
def shuffledDoc : Doc :=
  ⟨"Hola mundo ya", [⟨5, 10⟩, ⟨0, 0⟩, ⟨0, 20⟩, ⟨0, 3⟩],
    [⟨7, 5, 10, some "NOUN", some "", some "mundo", some "obj", some 3⟩,
      ⟨3, 0, 4, some "INTJ", none, some "hola", some "ROOT", some 3⟩,
      ⟨9, 11, 13, some "ADV", some "A=b", some "ya", some "adv", some 7⟩]⟩

def shuffledUnits : List UnitSentence :=
  [[⟨"mundo", ⟨some 5, none⟩, .lemmaSeparated ⟨7, "NOUN", none, "obj", .absolute 3 7, "mundo"⟩⟩,
      ⟨"Hola", ⟨some 0, none⟩, .lemmaSeparated ⟨3, "INTJ", none, "ROOT", .absolute 3 7, "hola"⟩⟩],
    [], [⟨"ya", ⟨some 11, none⟩, .lemmaSeparated ⟨9, "ADV", some "A=b", "adv", .absolute 7 9, "ya"⟩⟩], []]

theorem readSentences_shuffledDoc :
    readSentences shuffledDoc = .ok shuffledUnits ∧ shuffledUnits.length = shuffledDoc.sentenceCount ∧
      shuffledDoc.sentenceCount = 4 ∧
      List.Forall₂ (fun t unit => ∃ start, t.GivesUnit shuffledDoc.text start unit) shuffledDoc.tokens
        shuffledUnits.flatten ∧
      ∃ groups : List (List Token), groups.flatten = shuffledDoc.tokens ∧
        List.Forall₂ (fun ts units => List.Forall₂ (Token.GivesUnit shuffledDoc.text (firstId ts)) ts units) groups
          shuffledUnits := by
  have h : readSentences shuffledDoc = .ok shuffledUnits := eq_ok_of_toOption (by decide +kernel)
  obtain ⟨hcount, htokens, hgroups⟩ := readSentences_units h
  exact ⟨h, hcount, rfl, htokens, hgroups⟩

/-! ### Records of tokens -/

/-- The text of the record stands at its offset in a text, counted in characters. -/
def AnchoredIn (s : String) (r : Record) : Prop :=
  r.idx + r.text.length ≤ s.length ∧ (s.toList.drop r.idx).take r.text.length = r.text.toList

/-- **Every record is anchored in the text of the document**, at the offsets of a token. -/
theorem convert_anchored {c : Converter} {text : String} {doc : Document} (hc : c.pipeline = .spacy)
    (h : c.convert text = .ok doc) :
    ∃ d, Doc.ofText text = .ok d ∧ ∀ r ∈ doc.records, AnchoredIn d.text r ∧
      ∃ t ∈ d.tokens, r.idx = t.start ∧ r.idx + r.text.length = t.stop := by
  obtain ⟨d, sentences, hd, hs, ha⟩ := (Converter.convert_spacy_eq_ok_iff hc).1 h
  refine ⟨d, hd, fun r hr => ?_⟩
  obtain ⟨unit, hu, w, -, hshows⟩ := exists_shows_of_mem_records ha hr
  obtain ⟨t, ht, start, hunit⟩ := exists_of_mem_right (givesUnit_tokens hs) hu
  have hidx : r.idx = t.start := by
    have hgives := hshows.idx
    rw [hunit.offset] at hgives
    simpa [OffsetHint.Gives, eq_comm] using hgives
  obtain ⟨hoccurs, hstop⟩ := hunit.text
  rw [← hshows.text, ← hidx] at hoccurs hstop
  exact ⟨⟨hoccurs.add_length_le, hoccurs.take_drop⟩, t, ht, hidx, hstop⟩

/-- A text of characters of one to four bytes, in which a token has a lemma of two words. -/
def wideText : String :=
  "\x7b\"text\":\"¿𝒟ímelo…\",\"sents\":[[0,8]],\"tokens\":[[0,0,1,\"PUNCT\",null,\"¿\",\"punct\",1],
    [1,1,7,\"VERB\",\"\",\"decir él\",\"ROOT\",1],[2,7,8,\"PUNCT\",null,\"…\",\"punct\",1]]\x7d"

def wideDocument : Document :=
  ⟨["spacy-3.7.5"], .flat [[
    ⟨0, "PUNCT", "PUNCT", "punct", 1, "¿", 0, 0, "¿"⟩, ⟨1, "VERB", "VERB", "root", 1, "𝒟ímelo", 1, 1, "decir"⟩,
    ⟨2, "VERB", "VERB", "root", 1, "𝒟ímelo", 1, 2, "él"⟩, ⟨3, "PUNCT", "PUNCT", "punct", 1, "…", 7, 3, "…"⟩]]⟩

theorem convert_wideText :
    (⟨.spacy, "3.7.5", .flat, [], none⟩ : Converter).convert wideText = .ok wideDocument ∧
      ∃ d, Doc.ofText wideText = .ok d ∧ ∀ r ∈ wideDocument.records, AnchoredIn d.text r ∧
        ∃ t ∈ d.tokens, r.idx = t.start ∧ r.idx + r.text.length = t.stop := by
  have h : (⟨.spacy, "3.7.5", .flat, [], none⟩ : Converter).convert wideText = .ok wideDocument :=
    eq_ok_of_toOption (by decide +kernel)
  exact ⟨h, convert_anchored rfl h⟩

end WordRecords.Spacy
