import Mathlib.Data.List.TakeWhile
import WordRecords.Proofs.Spacy.Grouping
import WordRecords.Proofs.Text.Slice

/-!
# Where tokens go, one by one

The reader never goes back to a span that it has left behind. Still its answer can be said of every token by itself. It
accepts a document exactly when every token makes a unit and starts before the end of some span
(`exists_readSentences_iff`), in whatever order tokens and spans are. Where the tokens are in order, the sentence of a
span has the tokens for which this span is the first one that ends behind their starts (`readSentences_ordered`).
-/

namespace WordRecords.Spacy

/-! ### Tokens that make units -/

/-- The token has an analysis, and its offsets are those of a slice of the text. -/
structure Doc.Admits (d : Doc) (t : Token) : Prop where
  head : t.head.isSome
  pos : t.pos.isSome
  dep : t.dep.isSome
  lemmaForm : t.lemmaForm.isSome
  start_le : t.start ≤ t.stop
  stop_le : t.stop ≤ d.text.length

theorem exists_makesUnit_iff {d : Doc} {start : Nat} {t : Token} :
    (∃ unit, MakesUnit d.cut start t unit) ↔ d.Admits t := by
  constructor
  · rintro ⟨unit, text, hcut, hunit⟩
    obtain ⟨head, pos, dep, lemmaForm, hh, hp, hd, hl, -⟩ := toUnit_eq_ok_iff.1 hunit
    obtain ⟨hle, hstop⟩ := Text.exists_slice?_iff.1 ⟨text, hcut⟩
    constructor
    · exact Option.isSome_of_eq_some hh
    · exact Option.isSome_of_eq_some hp
    · exact Option.isSome_of_eq_some hd
    · exact Option.isSome_of_eq_some hl
    · exact hle
    · exact hstop
  · rintro ⟨hh, hp, hd, hl, hle, hstop⟩
    obtain ⟨head, hh⟩ := Option.isSome_iff_exists.1 hh
    obtain ⟨pos, hp⟩ := Option.isSome_iff_exists.1 hp
    obtain ⟨dep, hd⟩ := Option.isSome_iff_exists.1 hd
    obtain ⟨lemmaForm, hl⟩ := Option.isSome_iff_exists.1 hl
    obtain ⟨text, hcut⟩ := Text.exists_slice?_iff.2 ⟨hle, hstop⟩
    exact ⟨_, text, hcut, toUnit_eq_ok_iff.2 ⟨head, pos, dep, lemmaForm, hh, hp, hd, hl, rfl⟩⟩

theorem exists_groupUnits_iff {d : Doc} {ts : List Token} :
    (∃ units, GroupUnits d.cut ts units) ↔ ∀ t ∈ ts, d.Admits t := by
  simp only [GroupUnits, exists_forall₂_iff, exists_makesUnit_iff]

/-! ### Tokens that are left over -/

/-- Some span ends behind the start of the token. -/
def reached (spans : List Span) (t : Token) : Bool := spans.any fun s => s.reaches t

theorem reached_iff {spans : List Span} {t : Token} : reached spans t = true ↔ ∃ s ∈ spans, t.start < s.stop := by
  simp [reached, Span.reaches]

theorem reached_cons (s : Span) (later : List Span) (t : Token) :
    reached (s :: later) t = (s.reaches t || reached later t) := rfl

/-- Where a span does not reach a token that later spans reach, these reach whatever it does. -/
theorem reached_cons_of_passed {s : Span} {later : List Span} {u : Token} (hu : s.reaches u = false)
    (hlater : reached later u = true) : reached (s :: later) = reached later := by
  funext t
  rw [reached_cons, Bool.eq_iff_iff, Bool.or_eq_true]
  refine or_iff_right_of_imp fun ht => ?_
  obtain ⟨s', hs', hr⟩ := reached_iff.1 hlater
  refine reached_iff.2 ⟨s', hs', ?_⟩
  simp only [Span.reaches, decide_eq_true_eq, decide_eq_false_iff_not] at ht hu
  omega

theorem reaches_head_dropWhile (s : Span) (tokens : List Token) :
    ∀ t ∈ (tokens.dropWhile s.reaches).head?, s.reaches t = false := by
  intro t ht
  have h := List.head?_dropWhile_not s.reaches tokens
  rw [Option.mem_def.1 ht] at h
  simpa using h

/-- The first token left over is the first that no span reaches. -/
theorem unplaced_eq_dropWhile (spans : List Span) (tokens : List Token) :
    unplaced spans tokens = tokens.dropWhile (reached spans) := by
  induction spans generalizing tokens with
  | nil =>
    cases tokens with
    | nil => rfl
    | cons t tokens => exact (List.dropWhile_cons_of_neg (by simp [reached])).symm
  | cons s later ih =>
    have hfront : ∀ t ∈ tokens.takeWhile s.reaches, reached (s :: later) t = true := by
      intro t ht
      rw [reached_cons, List.mem_takeWhile_imp ht, Bool.true_or]
    have hhead := reaches_head_dropWhile s tokens
    rw [unplaced, ih]
    conv_rhs => rw [← List.takeWhile_append_dropWhile (p := s.reaches) (l := tokens)]
    rw [List.dropWhile_append_of_pos hfront]
    generalize tokens.dropWhile s.reaches = rest at hhead
    cases rest with
    | nil => rfl
    | cons u rest =>
      have hu : s.reaches u = false := hhead u rfl
      by_cases hlater : reached later u = true
      · rw [reached_cons_of_passed hu hlater]
      · have hall : ¬reached (s :: later) u = true := by rwa [reached_cons, hu, Bool.false_or]
        rw [List.dropWhile_cons_of_neg hlater, List.dropWhile_cons_of_neg hall]

theorem unplaced_eq_nil_iff {spans : List Span} {tokens : List Token} :
    unplaced spans tokens = [] ↔ ∀ t ∈ tokens, ∃ s ∈ spans, t.start < s.stop := by
  rw [unplaced_eq_dropWhile, List.dropWhile_eq_nil_iff]
  exact forall₂_congr fun t _ => reached_iff

/-! ### Acceptance -/

theorem exists_readSentences_iff_spans {d : Doc} :
    (∃ sentences, readSentences d = .ok sentences) ↔
      ∀ t ∈ d.tokens, d.Admits t ∧ ∃ s ∈ d.spans, t.start < s.stop := by
  simp only [readSentences_eq_ok_iff, exists_and_left, exists_forall₂_iff, exists_groupUnits_iff]
  rw [forall₂_and, and_comm, ← unplaced_eq_nil_iff]
  refine and_congr_left fun hnil => ?_
  rw [← flatten_groups hnil, List.forall_mem_flatten]

/-- A text has fewer characters than the span of a document without spans. -/
theorem start_lt_of_admits {d : Doc} {t : Token} (ht : d.Admits t) (hn : d.text.utf8ByteSize < signedLimit) :
    t.start < countLimit - 1 := by
  have hlt : signedLimit ≤ countLimit - 1 := by decide
  have := Text.length_le_utf8ByteSize d.text
  have := ht.start_le
  have := ht.stop_le
  omega

theorem exists_readSentences_iff {d : Doc} (hn : d.text.utf8ByteSize < signedLimit) :
    (∃ sentences, readSentences d = .ok sentences) ↔
      ∀ t ∈ d.tokens, d.Admits t ∧ (d.sents ≠ [] → ∃ s ∈ d.sents, t.start < s.stop) := by
  rw [exists_readSentences_iff_spans, Doc.spans]
  refine forall₂_congr fun t ht => and_congr_right fun hadmits => ?_
  by_cases hs : d.sents = []
  · rw [if_pos ⟨hs, List.ne_nil_of_mem ht⟩]
    refine iff_of_true ⟨_, List.mem_singleton_self _, start_lt_of_admits hadmits hn⟩ fun h => absurd hs h
  · rw [if_neg fun h => hs h.1]
    exact (imp_iff_right hs).symm

/-! ### Placement of tokens in order -/

/-- The sentence that the start of a token leads to: that of the first span which ends behind it, or the only one. -/
def Doc.sentenceOf? (d : Doc) (t : Token) : Option Nat :=
  if d.sents = [] then some 0 else d.sents.findIdx? fun s => decide (t.start < s.stop)

/-- Every span makes a sentence. Without spans all tokens make one. -/
def Doc.sentenceCount (d : Doc) : Nat :=
  if d.sents = [] then if d.tokens = [] then 0 else 1 else d.sents.length

theorem length_groups (d : Doc) : d.groups.length = d.sentenceCount := by
  rw [Doc.groups, length_groupsOf, Doc.sentenceCount, Doc.spans]
  by_cases hs : d.sents = []
  · by_cases ht : d.tokens = []
    · simp [hs, ht]
    · simp [hs, ht]
  · simp [hs]

/-- A group has the tokens for which its span is the first one that ends behind their starts. -/
theorem groupsOf_of_inOrder {spans : List Span} {tokens ts : List Token} {i : Nat} (ho : InOrder tokens)
    (hts : (groupsOf spans tokens)[i]? = some ts) :
    ts = tokens.filter fun t => spans.findIdx? (fun s => s.reaches t) = some i := by
  induction spans generalizing tokens i with
  | nil => simp [groupsOf] at hts
  | cons s later ih =>
    cases i with
    | zero =>
      obtain rfl := Option.some.inj hts
      rw [(takeWhile_reaches ho).1]
      refine List.filter_congr fun t _ => ?_
      by_cases hr : s.reaches t = true
      · simp [List.findIdx?_cons, hr]
      · simp [List.findIdx?_cons, hr]
    | succ i =>
      have hts : (groupsOf later (tokens.dropWhile s.reaches))[i]? = some ts := hts
      rw [ih (ho.dropWhile _) hts, (takeWhile_reaches ho).2, List.filter_filter]
      refine List.filter_congr fun t _ => ?_
      by_cases hr : s.reaches t = true
      · simp [List.findIdx?_cons, hr]
      · simp [List.findIdx?_cons, hr]

theorem groups_of_inOrder {d : Doc} (ho : InOrder d.tokens) (hn : d.text.utf8ByteSize < signedLimit)
    (hadmits : ∀ t ∈ d.tokens, d.Admits t) {i : Nat} {ts : List Token} (hts : d.groups[i]? = some ts) :
    ts = d.tokens.filter fun t => d.sentenceOf? t = some i := by
  rw [groupsOf_of_inOrder ho hts]
  refine List.filter_congr fun t ht => ?_
  rw [Doc.sentenceOf?, Doc.spans]
  by_cases hs : d.sents = []
  · have hr : (⟨0, countLimit - 1⟩ : Span).reaches t = true := decide_eq_true (start_lt_of_admits (hadmits t ht) hn)
    rw [if_pos ⟨hs, List.ne_nil_of_mem ht⟩, if_pos hs, List.findIdx?_cons, if_pos hr]
  · rw [if_neg fun h => hs h.1, if_neg hs]
    rfl

/-- **One pass places every token as a search for it alone would.** -/
theorem readSentences_ordered {d : Doc} (ho : InOrder d.tokens) (hn : d.text.utf8ByteSize < signedLimit) :
    ((∃ sentences, readSentences d = .ok sentences) ↔
        ∀ t ∈ d.tokens, d.Admits t ∧ (d.sents ≠ [] → ∃ s ∈ d.sents, t.start < s.stop)) ∧
      ∀ sentences, readSentences d = .ok sentences → sentences.length = d.sentenceCount ∧
        ∀ i units, sentences[i]? = some units →
          GroupUnits d.cut (d.tokens.filter fun t => d.sentenceOf? t = some i) units := by
  refine ⟨exists_readSentences_iff hn, fun sentences h => ?_⟩
  have hadmits : ∀ t ∈ d.tokens, d.Admits t := fun t ht => ((exists_readSentences_iff hn).1 ⟨_, h⟩ t ht).1
  have hgroups := (readSentences_eq_ok_iff.1 h).2
  refine ⟨by rw [← hgroups.length_eq, length_groups], fun i units hu => ?_⟩
  obtain ⟨hlt, -⟩ := List.getElem?_eq_some_iff.1 hu
  rw [← hgroups.length_eq] at hlt
  have hts := List.getElem?_eq_getElem hlt
  rw [← groups_of_inOrder ho hn hadmits hts]
  exact forall₂_getElem? hgroups hts hu

/-- Two words in five spans: an empty one, one inside another, and one behind the last word. -/
def crowdedDoc : Doc :=
  ⟨"Hola mundo", [⟨0, 0⟩, ⟨0, 4⟩, ⟨2, 3⟩, ⟨5, 10⟩, ⟨9, 20⟩],
    [⟨0, 0, 4, some "INTJ", none, some "hola", some "ROOT", some 0⟩,
      ⟨1, 5, 10, some "NOUN", some "", some "mundo", some "obj", some 0⟩]⟩

def crowdedUnits : List UnitSentence :=
  [[], [⟨"Hola", ⟨some 0, none⟩, .lemmaSeparated ⟨0, "INTJ", none, "ROOT", .absolute 0 0, "hola"⟩⟩], [],
    [⟨"mundo", ⟨some 5, none⟩, .lemmaSeparated ⟨1, "NOUN", none, "obj", .absolute 0 1, "mundo"⟩⟩], []]

theorem readSentences_crowdedDoc :
    InOrder crowdedDoc.tokens ∧ crowdedDoc.text.utf8ByteSize < signedLimit ∧
      (∀ t ∈ crowdedDoc.tokens, crowdedDoc.Admits t ∧ ∃ s ∈ crowdedDoc.sents, t.start < s.stop) ∧
      readSentences crowdedDoc = .ok crowdedUnits ∧ crowdedUnits.length = crowdedDoc.sentenceCount ∧
      ∃ units, crowdedUnits[3]? = some units ∧
        GroupUnits crowdedDoc.cut (crowdedDoc.tokens.filter fun t => crowdedDoc.sentenceOf? t = some 3) units := by
  have ho : InOrder crowdedDoc.tokens := by decide
  have hn : crowdedDoc.text.utf8ByteSize < signedLimit := by decide
  have h : readSentences crowdedDoc = .ok crowdedUnits := eq_ok_of_toOption (by decide +kernel)
  obtain ⟨hok, hplaced⟩ := readSentences_ordered ho hn
  obtain ⟨hcount, hgroup⟩ := hplaced _ h
  refine ⟨ho, hn, fun t ht => ?_, h, hcount, _, rfl, hgroup 3 _ rfl⟩
  obtain ⟨hadmits, hreached⟩ := hok.1 ⟨_, h⟩ t ht
  exact ⟨hadmits, hreached (List.cons_ne_nil _ _)⟩

end WordRecords.Spacy
