import WordRecords.Proofs.Stanza.Positions

/-!
# Entries and their units

A sentence is read without loss. The words of its units are those of its entries for words, in order. The units
themselves stand for the ranges and for the words outside all runs (`unitEntries`), whose texts and offsets they have.
What an entry says beyond this does not count: neither text and offset of a word in a run, nor an analysis of a range.
`readSentence_units` states all three.

`marked` notes of every entry whether it is in a run. The reader takes a run as one piece, and so do the equations
`marked_cons_word` and `marked_cons_range`, on which the inductions over a reading rest.
-/

namespace WordRecords.Stanza

/-! ### Entries in runs -/

/-- Whether the entry is for a range. -/
def Entry.isRange (e : Entry) : Bool :=
  match e.id.parse? with
  | some (.range _ _) => true
  | _ => false

/-- Whether the entry is for a range that has all the entries in its run. -/
def Entry.announces (e : Entry) (es : List Entry) : Bool :=
  match e.id.parse? with
  | some (.range low high) => es.all (Entry.inRange low high)
  | _ => false

theorem isRange_of_range {e : Entry} {low high : Nat} (h : e.id.parse? = some (.range low high)) :
    e.isRange = true := by
  rw [Entry.isRange, h]

theorem isRange_of_word {e : Entry} {n : Nat} (h : e.id.parse? = some (.word n)) : e.isRange = false := by
  rw [Entry.isRange, h]

theorem announces_eq_true_iff {e : Entry} {es : List Entry} :
    e.announces es = true ↔
      ∃ low high, e.id.parse? = some (.range low high) ∧ ∀ e' ∈ es, e'.inRange low high = true := by
  unfold Entry.announces
  rcases e.id.parse? with _ | ⟨n⟩ | ⟨low, high⟩ <;> simp

instance decidableInRunBehind : (before : List Entry) → (e : Entry) → Decidable (InRunBehind before e)
  | [], _ => isFalse not_inRunBehind_nil
  | header :: before, e =>
    have := decidableInRunBehind before e
    decidable_of_iff (header.announces (before ++ [e]) = true ∨ InRunBehind before e) <| by
      rw [inRunBehind_cons, announces_eq_true_iff]

/-- The entries of a sentence, each with whether it is in a run. -/
def marked (es : List Entry) : List (Entry × Bool) :=
  es.mapIdx fun i e => (e, decide (InRunBehind (es.take i) e))

/-- The entries that units stand for: those for ranges, and those for words in no run. -/
def unitEntries (es : List Entry) : List Entry :=
  ((marked es).filter fun p => p.1.isRange || (p.1.isWord && !p.2)).map Prod.fst

theorem marked_cons (e : Entry) (rest : List Entry) :
    marked (e :: rest) = (e, false) :: rest.mapIdx fun i x => (x, decide (InRunBehind (e :: rest.take i) x)) := by
  rw [marked, List.mapIdx_cons, List.take_zero, decide_eq_false not_inRunBehind_nil]
  rfl

theorem marked_cons_word {e : Entry} {rest : List Entry} (he : e.isWord = true) :
    marked (e :: rest) = (e, false) :: marked rest := by
  rw [marked_cons, marked]
  simp only [inRunBehind_cons_word he]

theorem marked_cons_range {e : Entry} {low high : Nat} {run later : List Entry}
    (hid : e.id.parse? = some (.range low high)) (hrun : ∀ x ∈ run, x.inRange low high = true)
    (hend : Outside low high later) :
    marked (e :: (run ++ later)) = (e, false) :: ((run.map fun x => (x, true)) ++ marked later) := by
  rw [marked_cons, List.mapIdx_append, marked]
  congr 2
  · -- the members of the run are in it
    refine List.ext_getElem (by simp) fun i hi _ => ?_
    have hi : i < run.length := by simpa using hi
    have hin : InRunBehind (e :: run.take i) run[i] :=
      inRunBehind_of_run hid (eq_take_append_cons_drop run hi ▸ hrun)
    rw [List.getElem_mapIdx, List.getElem_map, List.take_append_of_le_length (Nat.le_of_lt hi), decide_eq_true hin]
  · -- what stands behind them is not, unless it is in a run of its own
    refine List.mapIdx_eq_mapIdx_iff.2 fun i hi => ?_
    have hout := inRunBehind_behind_run hid hrun (eq_take_append_cons_drop later hi ▸ hend)
    rw [Nat.add_comm, List.take_length_add_append]
    simp only [hout]

theorem unitEntries_cons_word {e : Entry} {rest : List Entry} (he : e.isWord = true) :
    unitEntries (e :: rest) = e :: unitEntries rest := by
  rw [unitEntries, marked_cons_word he, List.filter_cons_of_pos (by simp [he]), List.map_cons, unitEntries]

theorem unitEntries_cons_range {e : Entry} {low high : Nat} {run later : List Entry}
    (hid : e.id.parse? = some (.range low high)) (hrun : ∀ x ∈ run, x.inRange low high = true)
    (hend : Outside low high later) : unitEntries (e :: (run ++ later)) = e :: unitEntries later := by
  have hnone : (run.map fun x => (x, true)).filter (fun p => p.1.isRange || (p.1.isWord && !p.2)) = [] := by
    rw [List.filter_eq_nil_iff, List.forall_mem_map]
    intro x hx
    obtain ⟨n, hn, -⟩ := inRange_eq_true_iff.1 (hrun x hx)
    simp [isRange_of_word hn]
  rw [unitEntries, marked_cons_range hid hrun hend, List.filter_cons_of_pos (by simp [isRange_of_range hid]),
    List.filter_append, hnone, List.nil_append, List.map_cons, unitEntries]

/-! ### What words and units take from entries -/

/-- The word has the number and the analysis of the entry. -/
structure Entry.GivesWord (e : Entry) (w : Word) : Prop where
  nativeId : e.id.parse? = some (.word w.nativeId)
  pos : e.upos = some w.pos
  /-- Empty features are as good as none. -/
  features : ∀ features, w.features = some features ↔ e.feats = some features ∧ features ≠ ""
  dep : e.deprel = some w.dep
  head : ∃ head, e.head = some head ∧ w.head = .oneBased head
  lemmaForm : e.lemmaForm = some w.lemmaForm

/-- The number of words that an entry stands for. -/
def Entry.width (e : Entry) : Nat :=
  match e.id.parse? with
  | some (.range low high) => high - low + 1
  | _ => 1

/-- The unit has the text and the offset of the entry, and lists as many words as the entry stands for. -/
structure Entry.GivesUnit (e : Entry) (unit : SurfaceUnit) : Prop where
  text : e.text = some unit.text
  offset : unit.offset = ⟨e.startChar, e.misc⟩
  words : ∃ words, unit.decomposition = .explicit words ∧ words.length = e.width

theorem givesWord_of_toWord {e : Entry} {n : Nat} {w : Word} (hid : e.id.parse? = some (.word n))
    (h : e.toWord n = .ok w) : e.GivesWord w := by
  obtain ⟨head, pos, dep, lemmaForm, hh, hp, hd, hl, rfl⟩ := toWord_eq_ok_iff.1 h
  refine ⟨hid, hp, fun features => ?_, hd, ⟨head, hh, rfl⟩, hl⟩
  simp [Option.filter_eq_some_iff]

/-- The units of a sentence come from the entries that they stand for, one for one and in order. -/
theorem givesUnit_of_reads {es : List Entry} {units : UnitSentence} (h : Reads es units) :
    List.Forall₂ Entry.GivesUnit (unitEntries es) units := by
  induction h with
  | nil => exact .nil
  | word hid htext hw _ ih =>
    rw [unitEntries_cons_word (isWord_eq_true_iff.2 ⟨_, hid⟩)]
    refine .cons ⟨htext, rfl, _, rfl, ?_⟩ ih
    rw [Entry.width, hid]
    rfl
  | range hid htext _ _ hrun hend hlen _ ih =>
    rw [unitEntries_cons_range hid (inRange_of_inRun hrun) (runEnds_iff.1 hend).1]
    refine .cons ⟨htext, rfl, _, rfl, ?_⟩ ih
    rw [Entry.width, hid]
    exact hlen

/-! ### What does not count -/

/-- The second entry is the first one up to what does not count, which depends on whether the first one is in a run. -/
inductive Entry.Retouched : Bool → Entry → Entry → Prop
  | same (inRun : Bool) (e : Entry) : Retouched inRun e e
  /-- A word in a run with another text or offset. -/
  | word (e : Entry) (text : Option String) (startChar : Option Nat) (misc : Option String) :
      Retouched true e { e with text := text, startChar := startChar, misc := misc }
  /-- A range with another analysis. -/
  | range {e : Entry} (he : e.isRange = true) (lemmaForm upos feats : Option String) (head : Option Int)
      (deprel : Option String) :
      Retouched false e
        { e with lemmaForm := lemmaForm, upos := upos, feats := feats, head := head, deprel := deprel }

/-- The second sentence is the first one up to what does not count of its entries. -/
def Retouched (es es' : List Entry) : Prop := List.Forall₂ (fun p e' => Entry.Retouched p.2 p.1 e') (marked es) es'

theorem Entry.Retouched.id_eq {inRun : Bool} {e e' : Entry} (h : e.Retouched inRun e') : e'.id = e.id := by
  cases h <;> rfl

theorem Entry.Retouched.eq_of_word {e e' : Entry} {n : Nat} (h : Entry.Retouched false e e')
    (hid : e.id.parse? = some (.word n)) : e' = e := by
  cases h with
  | same => rfl
  | range he =>
    rw [isRange_of_word hid] at he
    cases he

theorem Entry.Retouched.inRun {e e' : Entry} {low high : Nat} {w : Word} (h : Entry.Retouched true e e')
    (hr : InRun low high e w) : InRun low high e' w := by
  cases h with
  | same => exact hr
  | word =>
    obtain ⟨n, hid, hlow, hhigh, hw⟩ := hr
    obtain ⟨head, pos, dep, lemmaForm, hh, hp, hd, hl, rfl⟩ := toWord_eq_ok_iff.1 hw
    exact ⟨n, hid, hlow, hhigh, toWord_eq_ok_iff.2 ⟨head, pos, dep, lemmaForm, hh, hp, hd, hl, rfl⟩⟩

theorem Entry.Retouched.surface_eq {e e' : Entry} (h : Entry.Retouched false e e') :
    e'.text = e.text ∧ e'.offsetHint = e.offsetHint := by
  cases h <;> exact ⟨rfl, rfl⟩

theorem Retouched.runEnds {es es' : List Entry} {low high : Nat} (h : Retouched es es') (hr : RunEnds low high es) :
    RunEnds low high es' := by
  cases es with
  | nil =>
    cases h
    trivial
  | cons e es =>
    rw [Retouched, marked_cons] at h
    cases h with
    | cons he _ =>
      obtain ⟨id, hid, hout⟩ := hr
      exact ⟨id, he.id_eq ▸ hid, hout⟩

/-- Sentences that are the same up to what does not count make the same units. -/
theorem Reads.retouched {es es' : List Entry} {units : UnitSentence} (hr : Reads es units) (h : Retouched es es') :
    Reads es' units := by
  induction hr generalizing es' with
  | nil =>
    cases h
    exact .nil
  | word hid htext hw _ ih =>
    rw [Retouched, marked_cons_word (isWord_eq_true_iff.2 ⟨_, hid⟩)] at h
    cases h with
    | cons he hrest =>
      rw [he.eq_of_word hid]
      exact .word hid htext hw (ih hrest)
  | range hid htext hle hcount hrun hend hlen _ ih =>
    rw [Retouched, marked_cons_range hid (inRange_of_inRun hrun) (runEnds_iff.1 hend).1] at h
    cases h with
    | cons he hrest =>
      obtain ⟨taken', later', htaken, hlater, rfl⟩ := exists_append_of_forall₂ hrest
      rw [List.forall₂_map_left_iff] at htaken
      rw [← he.surface_eq.2]
      refine .range (he.id_eq ▸ hid) (he.surface_eq.1.trans htext) hle hcount ?_ (Retouched.runEnds hlater hend) hlen
        (ih hlater)
      refine (forall₂_comp htaken.flip hrun).imp ?_
      rintro x w ⟨y, hy, hw⟩
      exact Entry.Retouched.inRun hy hw

/-! ### Sentences -/

/-- **Reading loses, doubles and moves nothing.** In order, the words of the units are those of the entries for words,
and the units are those of the ranges and of the words outside all runs. What does not count has no influence. -/
theorem readSentence_units {es : List Entry} {units : UnitSentence} (h : readSentence es = .ok units) :
    List.Forall₂ Entry.GivesWord (wordEntries es) (units.flatMap fun unit => unit.decomposition.words) ∧
      List.Forall₂ Entry.GivesUnit (unitEntries es) units ∧
      ∀ es', Retouched es es' → readSentence es' = .ok units := by
  obtain ⟨hr, hheads⟩ := readSentence_eq_ok_iff.1 h
  refine ⟨(words_of_reads hr).imp ?_, givesUnit_of_reads hr, fun es' hes => ?_⟩
  · rintro e w ⟨n, hid, hw⟩
    exact givesWord_of_toWord hid hw
  · exact readSentence_eq_ok_iff.2 ⟨hr.retouched hes, hheads⟩

/-- A word, and two ranges of which the second begins where the run of the first one ends. -/
def adjacentRanges : List Entry :=
  [⟨.number 1, some "Vino", some "venir", some "VERB", none, some 0, some "root", some 0, none⟩,
    ⟨.list [2, 3], some "del", none, none, none, none, none, none, some "start_char=5"⟩,
    ⟨.number 2, none, some "de", some "ADP", some "", some 3, some "case", none, none⟩,
    ⟨.number 3, none, some "el", some "DET", some "Gender=Masc", some 1, some "obl", none, none⟩,
    ⟨.text "4-5", some "darlo", none, none, none, none, none, some 9, none⟩,
    ⟨.number 4, none, some "dar", some "VERB", none, some 1, some "xcomp", none, none⟩,
    ⟨.number 5, none, some "él", some "PRON", none, some 4, some "obj", none, none⟩]

/-- The same with analyses for the ranges, and with texts and offsets for their words. -/
def filledRanges : List Entry :=
  [⟨.number 1, some "Vino", some "venir", some "VERB", none, some 0, some "root", some 0, none⟩,
    ⟨.list [2, 3], some "del", some "del", some "X", some "A=b", some 99, some "dep", none, some "start_char=5"⟩,
    ⟨.number 2, some "de", some "de", some "ADP", some "", some 3, some "case", some 5, none⟩,
    ⟨.number 3, some "el", some "el", some "DET", some "Gender=Masc", some 1, some "obl", none, some "start_char=7"⟩,
    ⟨.text "4-5", some "darlo", none, none, none, none, none, some 9, none⟩,
    ⟨.number 4, some "", some "dar", some "VERB", none, some 1, some "xcomp", none, none⟩,
    ⟨.number 5, none, some "él", some "PRON", none, some 4, some "obj", none, none⟩]

def adjacentUnits : UnitSentence :=
  [⟨"Vino", ⟨some 0, none⟩, .explicit [⟨1, "VERB", none, "root", .oneBased 0, "venir"⟩]⟩,
    ⟨"del", ⟨none, some "start_char=5"⟩, .explicit [⟨2, "ADP", none, "case", .oneBased 3, "de"⟩,
      ⟨3, "DET", some "Gender=Masc", "obl", .oneBased 1, "el"⟩]⟩,
    ⟨"darlo", ⟨some 9, none⟩, .explicit [⟨4, "VERB", none, "xcomp", .oneBased 1, "dar"⟩,
      ⟨5, "PRON", none, "obj", .oneBased 4, "él"⟩]⟩]

theorem retouched_filledRanges : Retouched adjacentRanges filledRanges := by
  have hmarked : marked adjacentRanges = adjacentRanges.zip [false, false, true, true, false, true, true] := by decide
  rw [Retouched, hmarked]
  exact .cons (.same ..) (.cons (.range rfl ..) (.cons (.word ..) (.cons (.word ..) (.cons (.same ..)
    (.cons (.word ..) (.cons (.same ..) .nil))))))

theorem readSentence_adjacentRanges :
    readSentence adjacentRanges = .ok adjacentUnits ∧
      List.Forall₂ Entry.GivesWord (wordEntries adjacentRanges)
        (adjacentUnits.flatMap fun unit => unit.decomposition.words) ∧
      (unitEntries adjacentRanges).map Entry.text = [some "Vino", some "del", some "darlo"] ∧
      List.Forall₂ Entry.GivesUnit (unitEntries adjacentRanges) adjacentUnits ∧
      Retouched adjacentRanges filledRanges ∧ readSentence filledRanges = .ok adjacentUnits := by
  have h : readSentence adjacentRanges = .ok adjacentUnits := eq_ok_of_toOption (by decide +kernel)
  obtain ⟨hwords, hunits, hsame⟩ := readSentence_units h
  exact ⟨h, hwords, by decide, hunits, retouched_filledRanges, hsame _ retouched_filledRanges⟩

end WordRecords.Stanza
