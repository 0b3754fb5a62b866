import WordRecords.Proofs.Stanza.Governors
import WordRecords.Proofs.Stanza.Grammar

/-!
# Positions of governors in Stanza output

Every word of a sentence becomes one record, whether it is a unit of its own or one of several words in a unit, and the
records stand in the order of the words (`Follows.describes`). Where the words are numbered from one, the record at the
position that a record gives for its governor is therefore that of the word with the governor's number
(`convert_governors`). The entries for ranges stand between the words and count for nothing.
-/

namespace WordRecords.Stanza

/-! ### Words and their records -/

/-- The entries for words, in order. -/
def wordEntries (es : List Entry) : List Entry := es.filter Entry.isWord

/-- The record has the analysis of the entry. -/
def Entry.Describes (e : Entry) (r : Record) : Prop :=
  ∃ head pos dep lemmaForm, e.head = some head ∧ e.upos = some pos ∧ e.deprel = some dep ∧
    e.lemmaForm = some lemmaForm ∧ r.pos = pos ∧
    r.tag = composeTag pos (e.feats.filter fun features => features ≠ "") ∧ r.dep = Text.lowerCase dep ∧
    r.head = (head - 1).toNat ∧ r.lemmaForm = Text.lowerCase lemmaForm

theorem describes_of_toWord {e : Entry} {n id index idx : Nat} {w : Word} {text : String} (h : e.toWord n = .ok w) :
    e.Describes ((⟨w, w.lemmaForm⟩ : FlatWord).toRecord id index text idx) := by
  obtain ⟨head, pos, dep, lemmaForm, hh, hp, hd, hl, rfl⟩ := toWord_eq_ok_iff.1 h
  exact ⟨head, pos, dep, lemmaForm, hh, hp, hd, hl, rfl, rfl, rfl, rfl, rfl⟩

/-- The records of a sentence that was read describe its words, one for one and in order. -/
theorem describes_of_reads {es : List Entry} {units : UnitSentence} {start : Nat} {words : List AnchoredWord}
    (hr : Reads es units) (hwords : words.map AnchoredWord.flat = flatWordsOf units) :
    List.Forall₂ Entry.Describes (wordEntries es) (recordSentence start words) := by
  have hex := explicit_of_reads hr
  rw [flatWordsOf_of_explicit fun unit hu => (hex unit hu).imp fun _ h => h.1] at hwords
  have hrecords := forall₂_recordSentence start words
  -- from the entry to its word, from that to the anchored word, and from that to the record
  have hanchored : List.Forall₂ (fun w (a : AnchoredWord) => a.flat = ⟨w, w.lemmaForm⟩)
      (units.flatMap fun unit => unit.decomposition.words) words := (forall₂_eq_iff.2 hwords).flip
  refine (forall₂_comp (forall₂_comp (words_of_reads hr) hanchored) hrecords).imp ?_
  rintro e r ⟨a, ⟨w, ⟨n, -, hw⟩, ha⟩, id, index, rfl⟩
  rw [ha]
  exact describes_of_toWord hw

/-! ### Numbers -/

/-- The words are numbered from one. -/
def Numbered (es : List Entry) : Prop :=
  (wordEntries es).map (fun e => e.id.parse?) = (List.range' 1 (wordEntries es).length).map fun n => some (.word n)

instance (es : List Entry) : Decidable (Numbered es) := inferInstanceAs (Decidable (_ = _))

theorem Numbered.parse?_eq {es : List Entry} (h : Numbered es) {position : Nat} {e : Entry}
    (he : (wordEntries es)[position]? = some e) : e.id.parse? = some (.word (position + 1)) := by
  have hlt : position < (wordEntries es).length := (List.getElem?_eq_some_iff.1 he).1
  have hat := congrArg (·[position]?) h
  simp only [List.getElem?_map, he, List.getElem?_range' hlt, Option.map_some, Option.some.injEq] at hat
  rw [hat, Nat.one_mul, Nat.add_comm]

/-! ### Governors -/

/-- At a position of a sentence, counted in words, there is the word of an entry, and the record is that of the word. -/
def RecordAt (es : List Entry) (rs : List Record) (position : Nat) (e : Entry) (r : Record) : Prop :=
  (wordEntries es)[position]? = some e ∧ rs[position]? = some r

/-- The records of a sentence follow its words. -/
structure Follows (es : List Entry) (rs : List Record) : Prop where
  /-- There is one record for every word, in order. -/
  describes : List.Forall₂ Entry.Describes (wordEntries es) rs
  /-- The record of a word without a governor points at the beginning. -/
  root : ∀ position e r, RecordAt es rs position e r → ∀ head, e.head = some head → head ≤ 0 → r.head = 0
  /-- If the words are numbered, the record of any other word points at the record of the word with the governor's
  number. -/
  governor : Numbered es → ∀ position e r, RecordAt es rs position e r → ∀ head, e.head = some head → 1 ≤ head →
    ∃ g r', RecordAt es rs r.head g r' ∧ g.id.parse? = some (.word head.toNat)

/-- Where no governor lies past the last word, records that describe the words follow them. -/
theorem follows_of_describes {es : List Entry} {rs : List Record}
    (hd : List.Forall₂ Entry.Describes (wordEntries es) rs)
    (hwithin : ∀ e ∈ wordEntries es, ∀ head, e.head = some head → head ≤ (wordEntries es).length) : Follows es rs := by
  have hhead : ∀ position e r, RecordAt es rs position e r →
      ∀ head, e.head = some head → r.head = (head - 1).toNat := by
    intro position e r hat head hh
    obtain ⟨head', _, _, _, hh', -, -, -, -, -, -, hr, -⟩ := forall₂_getElem? hd hat.1 hat.2
    obtain rfl := Option.some.inj (hh.symm.trans hh')
    exact hr
  constructor
  · exact hd
  · intro position e r hat head hh hle
    rw [hhead position e r hat head hh]
    omega
  · intro hnum position e r hat head hh hge
    have hle := hwithin e (List.mem_of_getElem? hat.1) head hh
    have hlt : r.head < (wordEntries es).length := by
      rw [hhead position e r hat head hh]
      omega
    have hg := List.getElem?_eq_getElem hlt
    refine ⟨_, _, ⟨hg, List.getElem?_eq_getElem (hd.length_eq ▸ hlt)⟩, ?_⟩
    -- the governor is one place before its number
    rw [hnum.parse?_eq hg, hhead position e r hat head hh]
    congr 2
    omega

/-- **Records point at the words with the governors' numbers.** In every sentence of a conversion there is one record
for every word. The record of a word without a governor points at the beginning, and where the words are numbered from
one, that of any other word points at the record of the word with the governor's number. -/
theorem convert_governors {c : Converter} {text : String} {ss : List (List Entry)} {doc : Document}
    (hc : c.pipeline = .stanza) (ht : entriesOfText text = .ok ss) (h : c.convert text = .ok doc) :
    List.Forall₂ Follows ss doc.sentences := by
  obtain ⟨entries, sentences, he, hs, ha⟩ := (Converter.convert_stanza_eq_ok_iff hc).1 h
  obtain rfl : ss = entries := Except.ok.inj (ht.symm.trans he)
  refine (forall₂_comp (mapM_eq_ok_iff.1 hs) (records_of_assembleSentences (sentences_of_assemble ha))).imp ?_
  rintro es rs ⟨units, hread, start, words, hwords, rfl⟩
  obtain ⟨hr, hwithin⟩ := readSentence_eq_ok_iff.1 hread
  refine follows_of_describes (describes_of_reads hr hwords) fun e he => ?_
  obtain ⟨hmem, hword⟩ := List.mem_filter.1 he
  exact (headsWithin_iff hr).1 hwithin e hmem hword

/-- A sentence whose second unit is of two words, with governors behind it and in front of it. -/
def governedText : String :=
  "[[[1,\"Vino\",\"venir\",\"V\",null,-1,\"root\",0,null],[[2,3],\"del\",null,null,null,null,null,5,null],
    [2,null,\"de\",\"P\",null,4,\"case\",null,null],[3,null,\"el\",\"D\",null,4,\"det\",null,null],
    [4,\"mar\",\"mar\",\"N\",\"\",1,\"obl\",9,null]]]"

def governedEntries : List (List Entry) :=
  [[⟨.number 1, some "Vino", some "venir", some "V", none, some (-1), some "root", some 0, none⟩,
    ⟨.list [2, 3], some "del", none, none, none, none, none, some 5, none⟩,
    ⟨.number 2, none, some "de", some "P", none, some 4, some "case", none, none⟩,
    ⟨.number 3, none, some "el", some "D", none, some 4, some "det", none, none⟩,
    ⟨.number 4, some "mar", some "mar", some "N", some "", some 1, some "obl", some 9, none⟩]]

def governedDocument : Document :=
  ⟨["stanza-1.9.2"], .flat [[
    ⟨0, "V", "V", "root", 0, "Vino", 0, 0, "venir"⟩, ⟨1, "P", "P", "case", 3, "del", 5, 1, "de"⟩,
    ⟨2, "D", "D", "det", 3, "del", 5, 2, "el"⟩, ⟨3, "N", "N", "obl", 0, "mar", 9, 3, "mar"⟩]]⟩

theorem convert_governedText :
    entriesOfText governedText = .ok governedEntries ∧ (∀ es ∈ governedEntries, Numbered es) ∧
      (⟨.stanza, "1.9.2", .flat, [], none⟩ : Converter).convert governedText = .ok governedDocument ∧
      List.Forall₂ Follows governedEntries governedDocument.sentences := by
  have ht : entriesOfText governedText = .ok governedEntries := eq_ok_of_toOption (by decide +kernel)
  have hnum : ∀ es ∈ governedEntries, Numbered es := by decide +kernel
  have h : (⟨.stanza, "1.9.2", .flat, [], none⟩ : Converter).convert governedText = .ok governedDocument :=
    (Converter.convert_eq_convertEntries rfl ht).trans (eq_ok_of_toOption (by decide +kernel))
  exact ⟨ht, hnum, h, convert_governors rfl ht h⟩

end WordRecords.Stanza
