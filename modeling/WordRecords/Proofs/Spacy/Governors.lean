import Mathlib.Data.List.Nodup
import Mathlib.Data.List.Pairwise
import WordRecords.Proofs.Converter
import WordRecords.Proofs.Spacy.Grouping
import WordRecords.Proofs.Text.Fields

/-!
# Governors in spaCy output

spaCy counts governors in tokens, and records count them in records. The reader subtracts the number of the sentence's
first token from a governor's, which leaves a position among the tokens of the sentence (`head_of_mem_flatWordsOf`).
Where the lemma of a token lists several words, the records drift away from the tokens, and the position is that of
another record or of none. Two statements say exactly when this happens:

* `head_meets_governor_iff`: in a regular document, the record at the position that a record gives for its governor
  stands for the governor exactly when no token before the governor in its sentence gives several records.
* `convert_spacy_violations_iff`: in any document, the checks find nothing exactly when every distance between a
  governor and the first token of the sentence is less than the number of records of the sentence.
-/

namespace WordRecords.Spacy

/-! ### The tokens behind the records -/

/-- The number of records that a token gives: the words that its lemma lists. -/
def Token.recordCount (t : Token) : Nat := (Text.splitFields ' ' (t.lemmaForm.getD "")).length

/-- The numbers of tokens, one for each record that they give. -/
def spread (ts : List Token) : List Nat := ts.flatMap fun t => List.replicate t.recordCount t.id

theorem Token.recordCount_pos (t : Token) : 0 < t.recordCount := Text.length_splitFields_pos ' ' _

theorem nativeId_flatWords {cut : Cut} {start : Nat} {t : Token} {unit : SurfaceUnit} (h : MakesUnit cut start t unit) :
    unit.flatWords.map (fun w => w.word.nativeId) = List.replicate t.recordCount t.id := by
  obtain ⟨text, -, hunit⟩ := h
  obtain ⟨head, pos, dep, lemmaForm, -, -, -, hl, rfl⟩ := toUnit_eq_ok_iff.1 hunit
  rw [SurfaceUnit.flatWords, List.map_map, Token.recordCount, hl]
  exact List.map_const'

/-- The words of a sentence belong to its tokens in order. -/
theorem nativeId_flatWordsOf {cut : Cut} {ts : List Token} {units : UnitSentence} (h : GroupUnits cut ts units) :
    (flatWordsOf units).map (fun w => w.word.nativeId) = spread ts := by
  rw [flatWordsOf, List.map_flatMap, spread]
  unfold GroupUnits at h
  generalize firstId ts = start at h
  induction h with
  | nil => rfl
  | cons hu _ ih => rw [List.flatMap_cons, List.flatMap_cons, nativeId_flatWords hu, ih]

/-- The position that a word gives for its governor is the distance of two tokens. -/
theorem head_of_mem_flatWordsOf {cut : Cut} {ts : List Token} {units : UnitSentence} (h : GroupUnits cut ts units)
    {w : FlatWord} (hw : w ∈ flatWordsOf units) :
    ∃ t ∈ ts, w.word.nativeId = t.id ∧ ∃ head, t.head = some head ∧ w.head = head - firstId ts := by
  obtain ⟨unit, hu, hw⟩ := List.mem_flatMap.1 hw
  obtain ⟨t, ht, text, -, hunit⟩ := exists_of_mem_right h hu
  obtain ⟨head, pos, dep, lemmaForm, hh, -, -, -, rfl⟩ := toUnit_eq_ok_iff.1 hunit
  obtain ⟨segment, -, rfl⟩ := List.mem_map.1 hw
  exact ⟨t, ht, rfl, head, hh, rfl⟩

/-! ### Positions among tokens and among records -/

section Positions

variable {ts : List Token} {a : Nat}

theorem spread_cons (t : Token) (ts : List Token) :
    spread (t :: ts) = List.replicate t.recordCount t.id ++ spread ts := List.flatMap_cons

/-- A token's records are never before its place among the tokens. -/
theorem le_of_getElem?_spread (h : ts.map Token.id = List.range' a ts.length) {k x : Nat}
    (hx : (spread ts)[k]? = some x) : x ≤ a + k := by
  induction ts generalizing a k with
  | nil => simp [spread] at hx
  | cons t ts ih =>
    rw [List.map_cons, List.length_cons, List.range'_succ, List.cons.injEq] at h
    obtain ⟨ht, hts⟩ := h
    have hpos := t.recordCount_pos
    rw [spread_cons, List.getElem?_append, List.length_replicate] at hx
    split at hx
    · obtain rfl := List.eq_of_mem_replicate (List.mem_of_getElem? hx)
      omega
    · have := ih hts hx
      omega

/-- The place of a token among the tokens is one of its records' places exactly when no token before it gives several
records. -/
theorem getElem?_spread_eq_iff (h : ts.map Token.id = List.range' a ts.length) {k : Nat} (hk : k < ts.length) :
    (spread ts)[k]? = some (a + k) ↔ ∀ t ∈ ts, t.id < a + k → t.recordCount = 1 := by
  induction ts generalizing a k with
  | nil => simp at hk
  | cons t ts ih =>
    have hids := h
    rw [List.map_cons, List.length_cons, List.range'_succ, List.cons.injEq] at h
    obtain ⟨ht, hts⟩ := h
    have hpos := t.recordCount_pos
    rw [spread_cons, List.getElem?_append, List.length_replicate]
    cases k with
    | zero =>
      -- no number is less than the first one
      rw [if_pos hpos, List.getElem?_replicate, if_pos hpos, ht]
      refine iff_of_true rfl fun u hu hlt => ?_
      have hmem : u.id ∈ List.range' a (t :: ts).length := hids ▸ List.mem_map_of_mem hu
      have := (List.mem_range'_1.1 hmem).1
      omega
    | succ k =>
      rw [List.forall_mem_cons]
      by_cases hone : t.recordCount = 1
      · rw [hone, if_neg (by omega), Nat.add_sub_cancel, show a + (k + 1) = a + 1 + k by omega,
          ih hts (Nat.lt_of_succ_lt_succ hk)]
        exact (and_iff_right fun _ => rfl).symm
      · -- a first token of several records pushes all the others behind their places
        refine iff_of_false (fun hx => ?_) fun hall => hone (hall.1 (by omega))
        split at hx
        · have := List.eq_of_mem_replicate (List.mem_of_getElem? hx)
          omega
        · have := le_of_getElem?_spread hts hx
          omega

end Positions

/-! ### Regular documents -/

/-- Two tokens start in the same sentence. -/
def Doc.SameSentence (d : Doc) (t u : Token) : Prop := ∃ span ∈ d.spans, span.Holds t ∧ span.Holds u

instance (d : Doc) (t u : Token) : Decidable (d.SameSentence t u) :=
  inferInstanceAs (Decidable (∃ span ∈ d.spans, span.Holds t ∧ span.Holds u))

/-- A document as spaCy makes it. -/
structure Doc.Regular (d : Doc) : Prop where
  /-- The tokens are numbered by their positions. -/
  ids : d.tokens.map Token.id = List.range d.tokens.length
  /-- The tokens are in order of their offsets. -/
  ordered : InOrder d.tokens
  /-- The spans are in order, and none begins before the end of another one. -/
  disjoint : d.spans.Pairwise fun s s' => s.stop ≤ s'.start
  /-- Every token starts in a span. -/
  covered : ∀ t ∈ d.tokens, ∃ span ∈ d.spans, span.Holds t
  /-- Governors are tokens of the same sentence. -/
  heads : ∀ t ∈ d.tokens, ∃ g ∈ d.tokens, t.head = some g.id ∧ d.SameSentence t g

namespace Doc.Regular

variable {d : Doc} (h : d.Regular)
include h

theorem eq_of_id {t u : Token} (ht : t ∈ d.tokens) (hu : u ∈ d.tokens) (hid : t.id = u.id) : t = u :=
  List.inj_on_of_nodup_map (h.ids ▸ List.nodup_range) ht hu hid

theorem eq_of_holds {s s' : Span} (hs : s ∈ d.spans) (hs' : s' ∈ d.spans) {t : Token} (ht : s.Holds t)
    (ht' : s'.Holds t) : s = s' := by
  by_contra hne
  -- apart from one another in either order, the spans hold no common token
  have happart : d.spans.Pairwise fun s s' => ∀ t : Token, ¬(s.Holds t ∧ s'.Holds t) := by
    refine h.disjoint.imp fun hle t ht => ?_
    have := ht.1.2
    have := ht.2.1
    omega
  have : Std.Symm fun s s' : Span => ∀ t : Token, ¬(s.Holds t ∧ s'.Holds t) :=
    ⟨fun _ _ hsymm t ht => hsymm t ht.symm⟩
  exact happart.forall hs hs' hne t ⟨ht, ht'⟩

/-- The tokens in a group are those of the sentence of any one of them. -/
theorem sameSentence_iff {ts : List Token} (hts : ts ∈ d.groups) {g e : Token} (hg : g ∈ ts) (he : e ∈ d.tokens) :
    d.SameSentence e g ↔ e ∈ ts := by
  obtain ⟨j, hj⟩ := List.mem_iff_getElem?.1 hts
  have hlt : j < d.spans.length := by
    rw [← length_groupsOf d.spans d.tokens]
    exact (List.getElem?_eq_some_iff.1 hj).1
  have hspan : d.spans[j]? = some d.spans[j] := List.getElem?_eq_getElem hlt
  have hmem : ∀ t ∈ d.tokens, (t ∈ ts ↔ d.spans[j].Holds t) := fun t ht =>
    mem_groupsOf_iff h.ordered h.disjoint hj hspan (h.covered t ht) ht
  have hgt : g ∈ d.tokens := mem_of_mem_groupsOf hts hg
  rw [hmem e he]
  constructor
  · rintro ⟨span, hs, hse, hsg⟩
    rwa [← h.eq_of_holds hs (List.getElem_mem hlt) hsg ((hmem g hgt).1 hg)]
  · intro hse
    exact ⟨_, List.getElem_mem hlt, hse, (hmem g hgt).1 hg⟩

theorem governor_mem {ts : List Token} (hts : ts ∈ d.groups) {t g : Token} (ht : t ∈ ts) (hg : g ∈ d.tokens)
    (hhead : t.head = some g.id) : g ∈ ts := by
  obtain ⟨g', hg', hhead', span, hspan, hst, hsg⟩ := h.heads t (mem_of_mem_groupsOf hts ht)
  obtain rfl : g = g' := h.eq_of_id hg hg' (Option.some.inj (hhead.symm.trans hhead'))
  exact (h.sameSentence_iff hts ht hg).1 ⟨span, hspan, hsg, hst⟩

end Doc.Regular

/-! ### Records and their tokens -/

/-- A record at a position of a sentence stands for a word of the token. -/
def StandsFor (units : UnitSentence) (position : Nat) (r : Record) (t : Token) : Prop :=
  ∃ w, (flatWordsOf units)[position]? = some w ∧ w.word.nativeId = t.id ∧ r = w.toRecord r.id position r.text r.idx

section Sentence

variable {units : UnitSentence} {start : Nat} {words : List AnchoredWord}
  (hwords : words.map AnchoredWord.flat = flatWordsOf units)
include hwords

/-- At a position there is a record of the token exactly where the units have one of its words. -/
theorem exists_standsFor_iff {position : Nat} {t : Token} :
    (∃ r, (recordSentence start words)[position]? = some r ∧ StandsFor units position r t) ↔
      ((flatWordsOf units).map fun w => w.word.nativeId)[position]? = some t.id := by
  rw [List.getElem?_map, Option.map_eq_some_iff]
  constructor
  · rintro ⟨r, -, w, hw, hid, -⟩
    exact ⟨w, hw, hid⟩
  · rintro ⟨w, hw, hid⟩
    have hw' := hw
    rw [← hwords, List.getElem?_map, Option.map_eq_some_iff] at hw'
    obtain ⟨a, ha, rfl⟩ := hw'
    refine ⟨a.flat.toRecord (start + position) position a.text a.idx, ?_, a.flat, hw, hid, rfl⟩
    rw [getElem?_recordSentence, ha]
    rfl

end Sentence

/-- The record at the position that a record gives for its governor stands for the token. -/
def PointsAt (units : UnitSentence) (rs : List Record) (r : Record) (g : Token) : Prop :=
  ∃ r', rs[r.head]? = some r' ∧ StandsFor units r.head r' g

/-- No token before the given one in its sentence has a lemma of several words. -/
def Doc.InPlace (d : Doc) (g : Token) : Prop :=
  ∀ e ∈ d.tokens, d.SameSentence e g → e.id < g.id → ' ' ∉ (e.lemmaForm.getD "").toList

namespace Doc.Regular

variable {d : Doc} (h : d.Regular) {ts : List Token} (hts : ts ∈ d.groups) {units : UnitSentence}
  (hunits : GroupUnits d.cut ts units) {p : Nat} {r : Record} {t : Token} (hp : StandsFor units p r t)
  (ht : t ∈ d.tokens)
include h hts hunits hp ht

theorem mem_of_standsFor : t ∈ ts := by
  obtain ⟨w, hw, hid, -⟩ := hp
  obtain ⟨t', ht', hid', -⟩ := head_of_mem_flatWordsOf hunits (List.mem_of_getElem? hw)
  rwa [h.eq_of_id ht (mem_of_mem_groupsOf hts ht') (hid.symm.trans hid')]

theorem head_of_standsFor {head : Nat} (hhead : t.head = some head) : r.head = head - firstId ts := by
  obtain ⟨w, hw, hid, hr⟩ := hp
  obtain ⟨t', ht', hid', head', hhead', hwhead⟩ := head_of_mem_flatWordsOf hunits (List.mem_of_getElem? hw)
  obtain rfl : t = t' := h.eq_of_id ht (mem_of_mem_groupsOf hts ht') (hid.symm.trans hid')
  obtain rfl : head = head' := Option.some.inj (hhead.symm.trans hhead')
  rw [hr]
  exact hwhead

/-- Where the tokens of a sentence are a group of a regular document, a record points at the governor exactly when this
is in its place. -/
theorem pointsAt_iff {start : Nat} {words : List AnchoredWord}
    (hwords : words.map AnchoredWord.flat = flatWordsOf units) {g : Token} (hg : g ∈ d.tokens)
    (hhead : t.head = some g.id) :
    PointsAt units (recordSentence start words) r g ↔ d.InPlace g := by
  have htts : t ∈ ts := h.mem_of_standsFor hts hunits hp ht
  have hgts : g ∈ ts := h.governor_mem hts htts hg hhead
  obtain ⟨b, hb⟩ : ∃ b, ts.map Token.id = List.range' b ts.length :=
    ids_of_mem_groupsOf (h.ids.trans List.range_eq_range') hts
  -- the governor is token `k` of the sentence, and the record gives `k` for it
  have hgid : g.id ∈ List.range' b ts.length := hb ▸ List.mem_map_of_mem hgts
  obtain ⟨hle, hlt⟩ := List.mem_range'_1.1 hgid
  obtain ⟨k, hk⟩ := Nat.exists_eq_add_of_le hle
  have hrhead : r.head = k := by
    rw [h.head_of_standsFor hts hunits hp ht hhead, firstId_of_ids hb (List.ne_nil_of_mem hgts), hk,
      Nat.add_sub_cancel_left]
  rw [PointsAt, exists_standsFor_iff hwords, nativeId_flatWordsOf hunits, hrhead, hk,
    getElem?_spread_eq_iff hb (by omega)]
  constructor
  · intro hall e he hsame hlte
    exact Text.length_splitFields_eq_one_iff.1 (hall e ((h.sameSentence_iff hts hgts he).1 hsame) (hk ▸ hlte))
  · intro hall u hu hltu
    have hut : u ∈ d.tokens := mem_of_mem_groupsOf hts hu
    have hsame := (h.sameSentence_iff hts hgts hut).2 hu
    exact Text.length_splitFields_eq_one_iff.2 (hall u hut hsame (hk ▸ hltu))

end Doc.Regular

/-! ### Conversions -/

/-- The records of a sentence stand for tokens, and point at governors exactly when these are in their places. -/
structure Follows (d : Doc) (units : UnitSentence) (rs : List Record) : Prop where
  /-- Every record stands for a token. -/
  standsFor : ∀ p r, rs[p]? = some r → ∃ t ∈ d.tokens, StandsFor units p r t
  /-- A record of a token points at the token's governor exactly when no token before the governor in the sentence has a
  lemma of several words. -/
  pointsAt_iff : ∀ p r, rs[p]? = some r → ∀ t ∈ d.tokens, StandsFor units p r t →
    ∀ g ∈ d.tokens, t.head = some g.id → (PointsAt units rs r g ↔ d.InPlace g)

/-- **Records find their governors exactly behind tokens of one word**: this decides, for every record of every
conversion of a regular document, whether the record at the position given for the governor stands for the governor. -/
theorem head_meets_governor_iff {c : Converter} {text : String} {d : Doc} {doc : Document} (hc : c.pipeline = .spacy)
    (hd : Doc.ofText text = .ok d) (hreg : d.Regular) (h : c.convert text = .ok doc) :
    ∃ sentences, readSentences d = .ok sentences ∧ List.Forall₂ (Follows d) sentences doc.sentences := by
  obtain ⟨d', sentences, hd', hs, ha⟩ := (Converter.convert_spacy_eq_ok_iff hc).1 h
  obtain rfl : d = d' := Except.ok.inj (hd.symm.trans hd')
  have hgroups := (readSentences_eq_ok_iff.1 hs).2
  refine ⟨sentences, hs, ?_⟩
  refine ((List.forall₂_and_left _ _).2 ⟨fun units hu => exists_of_mem_right hgroups hu,
    records_of_assembleSentences (sentences_of_assemble ha)⟩).imp ?_
  rintro units rs ⟨⟨ts, hts, hunits⟩, start, words, hwords, rfl⟩
  constructor
  · intro p r hr
    rw [getElem?_recordSentence, Option.map_eq_some_iff] at hr
    obtain ⟨a, ha, rfl⟩ := hr
    have hw : (flatWordsOf units)[p]? = some a.flat := by
      rw [← hwords, List.getElem?_map, ha]
      rfl
    obtain ⟨t, ht, hid, -⟩ := head_of_mem_flatWordsOf hunits (List.mem_of_getElem? hw)
    exact ⟨t, mem_of_mem_groupsOf hts ht, a.flat, hw, hid, rfl⟩
  · intro p r _ t ht hp g hg hhead
    exact hreg.pointsAt_iff hts hunits hp ht hwords hg hhead

/-- A sentence whose first token has a lemma of two words. The tokens are written as lists of their fields. -/
def driftText : String :=
  "\x7b\"text\":\"Dímelo ya así\",\"sents\":[[0,13]],\"tokens\":[[0,0,6,\"V\",null,\"decir él\",\"root\",0],
    [1,7,9,\"A\",null,\"ya\",\"adv\",0],[2,10,13,\"A\",null,\"así\",\"adv\",1]]\x7d"

def driftDoc : Doc where
  text := "Dímelo ya así"
  sents := [⟨0, 13⟩]
  tokens := [⟨0, 0, 6, some "V", none, some "decir él", some "root", some 0⟩,
    ⟨1, 7, 9, some "A", none, some "ya", some "adv", some 0⟩,
    ⟨2, 10, 13, some "A", none, some "así", some "adv", some 1⟩]

def driftUnits : UnitSentence :=
  [⟨"Dímelo", ⟨some 0, none⟩, .lemmaSeparated ⟨0, "V", none, "root", .absolute 0 0, "decir él"⟩⟩,
    ⟨"ya", ⟨some 7, none⟩, .lemmaSeparated ⟨1, "A", none, "adv", .absolute 0 0, "ya"⟩⟩,
    ⟨"así", ⟨some 10, none⟩, .lemmaSeparated ⟨2, "A", none, "adv", .absolute 1 0, "así"⟩⟩]

def driftDocument : Document :=
  ⟨["spacy-3.7.5"], .flat [[
    ⟨0, "V", "V", "root", 0, "Dímelo", 0, 0, "decir"⟩, ⟨1, "V", "V", "root", 0, "Dímelo", 0, 1, "él"⟩,
    ⟨2, "A", "A", "adv", 0, "ya", 7, 2, "ya"⟩, ⟨3, "A", "A", "adv", 1, "así", 10, 3, "así"⟩]]⟩

theorem ofText_driftText : Doc.ofText driftText = .ok driftDoc := eq_ok_of_toOption (by decide +kernel)

theorem regular_driftDoc : driftDoc.Regular where
  ids := by decide
  ordered := by decide
  disjoint := by decide
  covered := by decide
  heads := by decide

theorem readSentences_driftDoc : readSentences driftDoc = .ok [driftUnits] := eq_ok_of_toOption (by decide +kernel)

theorem convert_driftText :
    (⟨.spacy, "3.7.5", .flat, [], none⟩ : Converter).convert driftText = .ok driftDocument :=
  (Converter.convert_spacy_eq_ok_iff rfl).2
    ⟨driftDoc, [driftUnits], ofText_driftText, readSentences_driftDoc, eq_ok_of_toOption (by decide +kernel)⟩

theorem driftDocument_follows :
    Doc.ofText driftText = .ok driftDoc ∧ driftDoc.Regular ∧
      (⟨.spacy, "3.7.5", .flat, [], none⟩ : Converter).convert driftText = .ok driftDocument ∧
      ∃ sentences, readSentences driftDoc = .ok sentences ∧
        List.Forall₂ (Follows driftDoc) sentences driftDocument.sentences :=
  ⟨ofText_driftText, regular_driftDoc, convert_driftText,
    head_meets_governor_iff rfl ofText_driftText regular_driftDoc convert_driftText⟩

/-- The last record stands for a token whose governor is *ya*, and points at a record of *Dímelo*. -/
theorem driftDocument_misses_governor :
    Doc.ofText driftText = .ok driftDoc ∧ driftDoc.Regular ∧
      (⟨.spacy, "3.7.5", .flat, [], none⟩ : Converter).convert driftText = .ok driftDocument ∧
      readSentences driftDoc = .ok [driftUnits] ∧ ∃ rs, driftDocument.sentences = [rs] ∧ ∃ r, rs[3]? = some r ∧
        ∃ t ∈ driftDoc.tokens, StandsFor driftUnits 3 r t ∧
          ∃ g ∈ driftDoc.tokens, t.head = some g.id ∧ ¬PointsAt driftUnits rs r g := by
  refine ⟨ofText_driftText, regular_driftDoc, convert_driftText, readSentences_driftDoc, _, rfl, _, rfl,
    ⟨2, 10, 13, some "A", none, some "así", some "adv", some 1⟩, by decide, ⟨⟨_, "así"⟩, by rfl, rfl, by rfl⟩,
    ⟨1, 7, 9, some "A", none, some "ya", some "adv", some 0⟩, by decide, rfl, ?_⟩
  rintro ⟨r', -, w, hw, hid, -⟩
  have hword : ((flatWordsOf driftUnits).map fun w => w.word.nativeId)[1]? = some 0 := by decide +kernel
  rw [List.getElem?_map, hw] at hword
  cases hid.symm.trans (Option.some.inj hword)

/-! ### Governors in their sentences -/

/-- Every governor is less far from the first token of the sentence than the sentence has records. -/
def Doc.GovernorsNear (d : Doc) : Prop :=
  ∀ ts ∈ d.groups, ∀ t ∈ ts, ∀ head, t.head = some head → head - firstId ts < (spread ts).length

theorem exists_word_of_head {cut : Cut} {ts : List Token} {units : UnitSentence} (h : GroupUnits cut ts units)
    {t : Token} (ht : t ∈ ts) {head : Nat} (hhead : t.head = some head) :
    ∃ w ∈ flatWordsOf units, w.head = head - firstId ts := by
  obtain ⟨unit, hu, text, -, hunit⟩ := exists_of_mem_left h ht
  obtain ⟨head', pos, dep, lemmaForm, hh, -, -, -, rfl⟩ := toUnit_eq_ok_iff.1 hunit
  obtain rfl : head = head' := Option.some.inj (hhead.symm.trans hh)
  -- a lemma lists at least one word
  obtain ⟨segment, hseg⟩ := List.exists_mem_of_length_pos (Text.length_splitFields_pos ' ' lemmaForm)
  exact ⟨_, List.mem_flatMap.2 ⟨_, hu, List.mem_map_of_mem hseg⟩, rfl⟩

theorem headsInside_iff_of_group {cut : Cut} {ts : List Token} {units : UnitSentence} (h : GroupUnits cut ts units)
    {start : Nat} {words : List AnchoredWord} (hwords : words.map AnchoredWord.flat = flatWordsOf units) :
    (∀ t ∈ ts, ∀ head, t.head = some head → head - firstId ts < (spread ts).length) ↔
      ∀ r ∈ recordSentence start words, r.head < (recordSentence start words).length := by
  have hlen : (recordSentence start words).length = (spread ts).length := by
    rw [length_recordSentence, ← nativeId_flatWordsOf h, ← hwords, List.length_map, List.length_map]
  have hheads : (recordSentence start words).map Record.head = (flatWordsOf units).map FlatWord.head := by
    rw [heads_recordSentence, hwords]
  rw [hlen, ← List.forall_mem_map (f := Record.head) (P := fun n => n < (spread ts).length), hheads,
    List.forall_mem_map]
  constructor
  · intro hnear w hw
    obtain ⟨t, ht, -, head, hhead, hwhead⟩ := head_of_mem_flatWordsOf h hw
    rw [hwhead]
    exact hnear t ht head hhead
  · intro hin t ht head hhead
    obtain ⟨w, hw, hwhead⟩ := exists_word_of_head h ht hhead
    rw [← hwhead]
    exact hin w hw

/-- **Conversions of spaCy output break the rule on governors only**, and they break it exactly when a governor is as
far from the first token of its sentence as the sentence has records. -/
theorem convert_spacy_violations_iff {c : Converter} {text : String} {doc : Document} (hc : c.pipeline = .spacy)
    (h : c.convert text = .ok doc) (hn : doc.recordCount < countLimit) :
    doc.Orderly ∧ doc.violations = doc.headViolations ∧
      ∃ d, Doc.ofText text = .ok d ∧ (doc.violations = [] ↔ d.GovernorsNear) := by
  obtain ⟨d, sentences, hd, hs, ha⟩ := (Converter.convert_spacy_eq_ok_iff hc).1 h
  have horderly := orderly_of_assemble ha
  have hv := horderly.violations_eq (Nat.le_of_lt hn)
  refine ⟨horderly, hv, d, hd, ?_⟩
  rw [hv, Document.headViolations_eq_nil_iff, Document.HeadsInside, Doc.GovernorsNear]
  have hgroups := (readSentences_eq_ok_iff.1 hs).2
  have hrecords := records_of_assembleSentences (sentences_of_assemble ha)
  refine (forall_mem_congr ((forall₂_comp hgroups hrecords).imp ?_)).symm
  rintro ts rs ⟨units, hunits, start, words, hwords, rfl⟩
  exact headsInside_iff_of_group hunits hwords

/-- A single token with a governor that is not there. -/
def strayText : String :=
  "\x7b\"text\":\"Hola\",\"sents\":[[0,4]],\"tokens\":[[0,0,4,\"INTJ\",null,\"hola\",\"ROOT\",5]]\x7d"

def strayDocument : Document :=
  ⟨["spacy-3.7.5"], .flat [[⟨0, "INTJ", "INTJ", "root", 5, "Hola", 0, 0, "hola"⟩]]⟩

theorem convert_strayText :
    (⟨.spacy, "3.7.5", .flat, [], none⟩ : Converter).convert strayText = .ok strayDocument :=
  eq_ok_of_toOption (by decide +kernel)

theorem strayDocument_orderly :
    (⟨.spacy, "3.7.5", .flat, [], none⟩ : Converter).convert strayText = .ok strayDocument ∧
      strayDocument.recordCount < countLimit ∧ strayDocument.Orderly ∧
      strayDocument.violations = strayDocument.headViolations ∧
      ∃ d, Doc.ofText strayText = .ok d ∧ (strayDocument.violations = [] ↔ d.GovernorsNear) := by
  have hn : strayDocument.recordCount < countLimit := by decide
  exact ⟨convert_strayText, hn, convert_spacy_violations_iff rfl convert_strayText hn⟩

theorem strayDocument_violations :
    (⟨.spacy, "3.7.5", .flat, [], none⟩ : Converter).convert strayText = .ok strayDocument ∧
      strayDocument.violations = [.headOutOfRange 0 5 1] :=
  ⟨convert_strayText, by decide +kernel⟩

end WordRecords.Spacy
