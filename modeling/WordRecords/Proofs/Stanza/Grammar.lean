import Mathlib.Data.List.TakeWhile
import WordRecords.Pipeline
import WordRecords.Proofs.Stanza.Identification
import WordRecords.Proofs.Stanza.Reading

/-!
# The grammar of Stanza output

`Grammatical` says of a list of entries, without reading it, what makes it a sentence: which identifications may occur,
what has to follow an entry for a range, which entries need a text, which an analysis, and how far governors may lie. A
sentence is looked at entry by entry, as what stands before, the entry, and what stands after. The reader accepts
exactly the grammatical sentences (`readSentences_grammatical`).

The reader takes the run behind a range as one piece. `wellFormed_cons_word` and `wellFormed_cons_range` take the
grammar apart in the same two ways; for the second one, what stands behind a run must not look as if it were in it.
-/

namespace WordRecords.Stanza

/-! ### The grammar -/

/-- Whether the entry is for a word. -/
def Entry.isWord (e : Entry) : Bool :=
  match e.id.parse? with
  | some (.word _) => true
  | _ => false

/-- Whether the entry is for a word with its number in a range. -/
def Entry.inRange (low high : Nat) (e : Entry) : Bool :=
  match e.id.parse? with
  | some (.word n) => decide (low ≤ n ∧ n ≤ high)
  | _ => false

/-- The entry has all parts of the analysis of a word. -/
def Entry.Analysed (e : Entry) : Prop := e.head.isSome ∧ e.upos.isSome ∧ e.deprel.isSome ∧ e.lemmaForm.isSome

/-- The longest run of words of a range in front of entries. -/
def runOf (low high : Nat) (es : List Entry) : List Entry := es.takeWhile (Entry.inRange low high)

/-- The entry that stands behind the others is in the run of a range among them. -/
def InRunBehind (before : List Entry) (e : Entry) : Prop :=
  ∃ earlier header between low high, before = earlier ++ header :: between ∧
    header.id.parse? = some (.range low high) ∧ ∀ e' ∈ between ++ [e], e'.inRange low high = true

/-- The entries are those of a sentence, its governors aside. -/
structure WellFormed (es : List Entry) : Prop where
  /-- Every identification has one of the known forms. -/
  supported : ∀ e ∈ es, e.id.Supported
  /-- A range has a text and does not end before it begins, and its run has as many words as it has numbers. -/
  ranges : ∀ before e after, es = before ++ e :: after → ∀ low high, e.id.parse? = some (.range low high) →
    e.text.isSome ∧ low ≤ high ∧ (runOf low high after).length = high - low + 1
  /-- A word that is in no run has a text. -/
  texts : ∀ before e after, es = before ++ e :: after → e.isWord = true → ¬InRunBehind before e → e.text.isSome
  /-- Every word has an analysis. -/
  analyses : ∀ e ∈ es, e.isWord = true → e.Analysed

/-- The entries are those of a sentence. -/
structure Grammatical (es : List Entry) : Prop extends WellFormed es where
  /-- No word has a governor past the last word. -/
  heads : ∀ e ∈ es, e.isWord = true → ∀ head, e.head = some head → head ≤ (es.filter Entry.isWord).length

/-! ### Words and runs -/

theorem isWord_eq_true_iff {e : Entry} : e.isWord = true ↔ ∃ n, e.id.parse? = some (.word n) := by
  unfold Entry.isWord
  rcases e.id.parse? with _ | ⟨n⟩ | ⟨low, high⟩ <;> simp

theorem inRange_eq_true_iff {low high : Nat} {e : Entry} :
    e.inRange low high = true ↔ ∃ n, e.id.parse? = some (.word n) ∧ low ≤ n ∧ n ≤ high := by
  unfold Entry.inRange
  rcases e.id.parse? with _ | ⟨n⟩ | ⟨low', high'⟩ <;> simp

theorem isWord_of_inRange {low high : Nat} {e : Entry} (h : e.inRange low high = true) : e.isWord = true := by
  obtain ⟨n, hn, -⟩ := inRange_eq_true_iff.1 h
  exact isWord_eq_true_iff.2 ⟨n, hn⟩

theorem isWord_of_range {low high : Nat} {e : Entry} (h : e.id.parse? = some (.range low high)) : e.isWord = false := by
  rw [Entry.isWord, h]

theorem exists_toWord_iff {e : Entry} {n : Nat} : (∃ w, e.toWord n = .ok w) ↔ e.Analysed := by
  simp only [toWord_eq_ok_iff, Entry.Analysed, Option.isSome_iff_exists]
  constructor
  · rintro ⟨_, head, pos, dep, lemmaForm, hh, hp, hd, hl, -⟩
    exact ⟨⟨head, hh⟩, ⟨pos, hp⟩, ⟨dep, hd⟩, lemmaForm, hl⟩
  · rintro ⟨⟨head, hh⟩, ⟨pos, hp⟩, ⟨dep, hd⟩, lemmaForm, hl⟩
    exact ⟨_, head, pos, dep, lemmaForm, hh, hp, hd, hl, rfl⟩

theorem exists_inRun_iff {low high : Nat} {e : Entry} :
    (∃ w, InRun low high e w) ↔ e.inRange low high = true ∧ e.Analysed := by
  rw [inRange_eq_true_iff]
  constructor
  · rintro ⟨w, n, hid, hlow, hhigh, hw⟩
    exact ⟨⟨n, hid, hlow, hhigh⟩, exists_toWord_iff.1 ⟨w, hw⟩⟩
  · rintro ⟨⟨n, hid, hlow, hhigh⟩, ha⟩
    obtain ⟨w, hw⟩ := exists_toWord_iff.2 ha
    exact ⟨w, n, hid, hlow, hhigh, hw⟩

/-- No word of the range stands first. -/
def Outside (low high : Nat) (es : List Entry) : Prop := ∀ e ∈ es.head?, e.inRange low high = false

theorem runOf_append {low high : Nat} {run later : List Entry} (hrun : ∀ e ∈ run, e.inRange low high = true)
    (hend : Outside low high later) : runOf low high (run ++ later) = run := by
  rw [runOf, List.takeWhile_append_of_pos hrun]
  cases later with
  | nil => simp
  | cons e later => simp [hend e rfl]

theorem runEnds_iff {low high : Nat} {es : List Entry} :
    RunEnds low high es ↔ Outside low high es ∧ ∀ e ∈ es.head?, e.id.Supported := by
  cases es with
  | nil => simp [RunEnds, Outside]
  | cons e es =>
    simp only [RunEnds, Outside, List.head?_cons, Option.mem_some_iff, forall_eq', ← isSome_parse?_iff, Entry.inRange]
    rcases e.id.parse? with _ | ⟨n⟩ | ⟨low', high'⟩ <;> simp

theorem inRange_of_inRun {low high : Nat} {run : List Entry} {words : List Word}
    (h : List.Forall₂ (InRun low high) run words) : ∀ e ∈ run, e.inRange low high = true := by
  intro e he
  obtain ⟨w, -, hw⟩ := exists_of_mem_left h he
  exact (exists_inRun_iff.1 ⟨w, hw⟩).1

theorem runOf_of_inRun {low high : Nat} {run later : List Entry} {words : List Word}
    (h : List.Forall₂ (InRun low high) run words) (hend : RunEnds low high later) :
    runOf low high (run ++ later) = run :=
  runOf_append (inRange_of_inRun h) (runEnds_iff.1 hend).1

theorem not_inRunBehind_nil {e : Entry} : ¬InRunBehind [] e := by
  rintro ⟨earlier, header, between, -, -, hs, -⟩
  simp at hs

theorem inRunBehind_cons {e x : Entry} {before : List Entry} :
    InRunBehind (e :: before) x ↔
      (∃ low high, e.id.parse? = some (.range low high) ∧ ∀ e' ∈ before ++ [x], e'.inRange low high = true) ∨
        InRunBehind before x := by
  constructor
  · rintro ⟨earlier, header, between, low, high, hs, hid, hall⟩
    cases earlier with
    | nil =>
      cases hs
      exact .inl ⟨low, high, hid, hall⟩
    | cons e' earlier =>
      cases hs
      exact .inr ⟨earlier, header, between, low, high, rfl, hid, hall⟩
  · rintro (⟨low, high, hid, hall⟩ | ⟨earlier, header, between, low, high, rfl, hid, hall⟩)
    · exact ⟨[], e, before, low, high, rfl, hid, hall⟩
    · exact ⟨e :: earlier, header, between, low, high, rfl, hid, hall⟩

/-- Words announce no runs. -/
theorem inRunBehind_append {words before : List Entry} {x : Entry} (h : ∀ e ∈ words, e.isWord = true) :
    InRunBehind (words ++ before) x ↔ InRunBehind before x := by
  induction words with
  | nil => rfl
  | cons e words ih =>
    rw [List.forall_mem_cons] at h
    rw [List.cons_append, inRunBehind_cons, ih h.2]
    refine or_iff_right ?_
    rintro ⟨low, high, hid, -⟩
    rw [isWord_of_range hid] at h
    cases h.1

theorem inRunBehind_cons_word {e x : Entry} {before : List Entry} (he : e.isWord = true) :
    InRunBehind (e :: before) x ↔ InRunBehind before x := by
  have hwords : ∀ e' ∈ [e], e'.isWord = true := by simpa using he
  exact inRunBehind_append hwords

/-- The members of a run are in a run. -/
theorem inRunBehind_of_run {e x : Entry} {low high : Nat} {before after : List Entry}
    (hid : e.id.parse? = some (.range low high)) (hrun : ∀ y ∈ before ++ x :: after, y.inRange low high = true) :
    InRunBehind (e :: before) x := by
  refine inRunBehind_cons.2 (.inl ⟨low, high, hid, fun y hy => hrun y ?_⟩)
  rw [List.append_cons]
  exact List.mem_append_left after hy

/-- What stands behind a complete run is not in it. -/
theorem inRunBehind_behind_run {e x : Entry} {low high : Nat} {run before after : List Entry}
    (hid : e.id.parse? = some (.range low high)) (hrun : ∀ y ∈ run, y.inRange low high = true)
    (hend : Outside low high (before ++ x :: after)) :
    InRunBehind (e :: (run ++ before)) x ↔ InRunBehind before x := by
  rw [inRunBehind_cons, inRunBehind_append fun y hy => isWord_of_inRange (hrun y hy)]
  refine or_iff_right ?_
  rintro ⟨low', high', hid', hall⟩
  rw [hid] at hid'
  cases hid'
  -- the run would reach the first entry behind it
  obtain ⟨y, hy, hhead⟩ : ∃ y ∈ before ++ [x], (before ++ x :: after).head? = some y := by
    cases before with
    | nil => exact ⟨x, by simp, rfl⟩
    | cons y before => exact ⟨y, by simp, rfl⟩
  have hin : y.inRange low high = true := by
    refine hall y ?_
    rw [List.append_assoc]
    exact List.mem_append_right run hy
  rw [hend y hhead] at hin
  cases hin

/-! ### The first unit of a sentence -/

/-- A sentence that begins with a word. -/
theorem wellFormed_cons_word {e : Entry} {rest : List Entry} (he : e.isWord = true) :
    WellFormed (e :: rest) ↔ e.text.isSome ∧ e.Analysed ∧ WellFormed rest := by
  obtain ⟨n, hid⟩ := isWord_eq_true_iff.1 he
  constructor
  · rintro ⟨hsup, hranges, htexts, han⟩
    rw [List.forall_mem_cons] at hsup han
    rw [forall_split_cons] at hranges htexts
    refine ⟨htexts.1 he not_inRunBehind_nil, han.1 he, hsup.2, hranges.2, ?_, han.2⟩
    simpa only [inRunBehind_cons_word he] using htexts.2
  · rintro ⟨ht, ha, hsup, hranges, htexts, han⟩
    refine ⟨List.forall_mem_cons.2 ⟨supported_of_parse? hid, hsup⟩, forall_split_cons.2 ⟨?_, hranges⟩,
      forall_split_cons.2 ⟨fun _ _ => ht, ?_⟩, List.forall_mem_cons.2 ⟨fun _ => ha, han⟩⟩
    · intro low high hr
      rw [hid] at hr
      cases hr
    · simpa only [inRunBehind_cons_word he] using htexts

/-- A sentence that begins with a range and its run. -/
theorem wellFormed_cons_range {e : Entry} {low high : Nat} {run later : List Entry}
    (hid : e.id.parse? = some (.range low high)) (hrun : ∀ x ∈ run, x.inRange low high = true)
    (hend : Outside low high later) :
    WellFormed (e :: (run ++ later)) ↔
      (e.text.isSome ∧ low ≤ high ∧ run.length = high - low + 1) ∧ (∀ x ∈ run, x.Analysed) ∧ WellFormed later := by
  have hwords : ∀ x ∈ run, x.isWord = true := fun x hx => isWord_of_inRange (hrun x hx)
  have hout : ∀ before x after, later = before ++ x :: after →
      (InRunBehind (e :: (run ++ before)) x ↔ InRunBehind before x) := by
    rintro before x after rfl
    exact inRunBehind_behind_run hid hrun hend
  have hnorange : ∀ x ∈ run, ∀ low' high', x.id.parse? ≠ some (.range low' high') := by
    intro x hx low' high' hr
    have := hwords x hx
    rw [isWord_of_range hr] at this
    cases this
  constructor
  · rintro ⟨hsup, hranges, htexts, han⟩
    rw [List.forall_mem_cons, List.forall_mem_append] at hsup han
    rw [forall_split_cons, forall_split_append] at hranges htexts
    refine ⟨?_, fun x hx => han.2.1 x hx (hwords x hx), hsup.2.2, hranges.2.2, ?_, han.2.2⟩
    · have := hranges.1 low high hid
      rwa [runOf_append hrun hend] at this
    · intro before x after hs hx hno
      exact htexts.2.2 before x after hs hx (mt (hout before x after hs).1 hno)
  · rintro ⟨hhead, ha, hsup, hranges, htexts, han⟩
    refine ⟨?_, forall_split_cons.2 ⟨?_, forall_split_append.2 ⟨?_, hranges⟩⟩,
      forall_split_cons.2 ⟨?_, forall_split_append.2 ⟨?_, ?_⟩⟩, ?_⟩
    · refine List.forall_mem_cons.2 ⟨supported_of_parse? hid, List.forall_mem_append.2 ⟨?_, hsup⟩⟩
      intro x hx
      obtain ⟨n, hn⟩ := isWord_eq_true_iff.1 (hwords x hx)
      exact supported_of_parse? hn
    · intro low' high' hid'
      rw [hid] at hid'
      cases hid'
      rwa [runOf_append hrun hend]
    · rintro before x after rfl low' high' hr
      exact absurd hr (hnorange x (by simp) low' high')
    · intro hw
      rw [isWord_of_range hid] at hw
      cases hw
    · rintro before x after rfl _ hno
      exact absurd (inRunBehind_of_run hid hrun) hno
    · intro before x after hs hx hno
      exact htexts before x after hs hx (mt (hout before x after hs).2 hno)
    · refine List.forall_mem_cons.2 ⟨?_, List.forall_mem_append.2 ⟨fun x hx _ => ha x hx, han⟩⟩
      intro hw
      rw [isWord_of_range hid] at hw
      cases hw

/-! ### Reading a sentence -/

theorem supported_of_reads {es : List Entry} {units : UnitSentence} (h : Reads es units) :
    ∀ e ∈ es.head?, e.id.Supported := by
  cases h with
  | nil => simp
  | word hid =>
    rintro _ ⟨⟩
    exact supported_of_parse? hid
  | range hid =>
    rintro _ ⟨⟩
    exact supported_of_parse? hid

theorem exists_reads_cons_word {e : Entry} {rest : List Entry} (he : e.isWord = true) :
    (∃ units, Reads (e :: rest) units) ↔ e.text.isSome ∧ e.Analysed ∧ ∃ units, Reads rest units := by
  obtain ⟨n, hid⟩ := isWord_eq_true_iff.1 he
  constructor
  · rintro ⟨units, h⟩
    cases h with
    | word _ htext hw hrest => exact ⟨by rw [htext]; rfl, exists_toWord_iff.1 ⟨_, hw⟩, _, hrest⟩
    | range hid' =>
      rw [hid] at hid'
      cases hid'
  · rintro ⟨ht, ha, units, h⟩
    obtain ⟨text, htext⟩ := Option.isSome_iff_exists.1 ht
    obtain ⟨w, hw⟩ := exists_toWord_iff.2 ha
    exact ⟨_, .word hid htext hw h⟩

theorem exists_reads_cons_range {e : Entry} {low high : Nat} {run later : List Entry}
    (hid : e.id.parse? = some (.range low high)) (hrun : ∀ x ∈ run, x.inRange low high = true)
    (hend : Outside low high later) :
    (∃ units, Reads (e :: (run ++ later)) units) ↔
      (e.text.isSome ∧ low ≤ high ∧ run.length = high - low + 1) ∧ high - low + 1 < countLimit ∧
        (∀ x ∈ run, x.Analysed) ∧ ∃ units, Reads later units := by
  constructor
  · rintro ⟨units, h⟩
    generalize hes : e :: (run ++ later) = es at h
    cases h with
    | nil => cases hes
    | word hid' =>
      cases hes
      rw [hid] at hid'
      cases hid'
    | @range _ _ _ _ taken later' words _ hid' htext hle hcount hrun' hend' hlen hlater =>
      obtain ⟨rfl, hsame⟩ := List.cons_eq_cons.1 hes
      rw [hid] at hid'
      cases hid'
      have htaken : ∀ x ∈ taken, ∃ w, InRun low high x w := exists_forall₂_iff.1 ⟨words, hrun'⟩
      -- both are the longest run in front of the same entries
      have hrun_eq : run = taken := by
        rw [← runOf_append hrun hend, hsame]
        exact runOf_of_inRun hrun' hend'
      subst hrun_eq
      obtain rfl := List.append_cancel_left hsame
      refine ⟨⟨by rw [htext]; rfl, hle, ?_⟩, hcount, fun x hx => (exists_inRun_iff.1 (htaken x hx)).2, _, hlater⟩
      rw [hrun'.length_eq, hlen]
  · rintro ⟨⟨ht, hle, hlen⟩, hcount, ha, units, h⟩
    obtain ⟨text, htext⟩ := Option.isSome_iff_exists.1 ht
    obtain ⟨words, hwords⟩ : ∃ words, List.Forall₂ (InRun low high) run words :=
      exists_forall₂_iff.2 fun x hx => exists_inRun_iff.2 ⟨hrun x hx, ha x hx⟩
    have hends : RunEnds low high later := runEnds_iff.2 ⟨hend, supported_of_reads h⟩
    exact ⟨_, .range hid htext hle hcount hwords hends (by rw [← hwords.length_eq, hlen]) h⟩

/-- Entries make units exactly when they are well-formed. A sentence holds no more entries than can be counted, so that
a range with too many numbers never has its run. -/
theorem exists_reads_iff {es : List Entry} (hn : es.length < countLimit) :
    (∃ units, Reads es units) ↔ WellFormed es := by
  induction hlen : es.length using Nat.strongRecOn generalizing es with
  | _ n ih =>
    subst hlen
    rcases es with _ | ⟨e, rest⟩
    · exact iff_of_true ⟨[], .nil⟩ ⟨by simp, by simp, by simp, by simp⟩
    · rcases hid : e.id.parse? with _ | ⟨n⟩ | ⟨low, high⟩
      · have hbad : ¬e.id.Supported := by
          rw [← isSome_parse?_iff, hid]
          exact Bool.false_ne_true
        refine iff_of_false ?_ fun h => hbad (h.supported e List.mem_cons_self)
        rintro ⟨units, h⟩
        exact hbad (supported_of_reads h e rfl)
      · have he : e.isWord = true := isWord_eq_true_iff.2 ⟨n, hid⟩
        rw [exists_reads_cons_word he, wellFormed_cons_word he]
        rw [List.length_cons] at hn
        rw [ih rest.length (by simp) (by omega) rfl]
      · -- the entry takes its run, and what is behind it is shorter
        have hsplit : runOf low high rest ++ rest.dropWhile (Entry.inRange low high) = rest :=
          List.takeWhile_append_dropWhile
        have hrun : ∀ x ∈ runOf low high rest, x.inRange low high = true := fun x hx => List.mem_takeWhile_imp hx
        have hend : Outside low high (rest.dropWhile (Entry.inRange low high)) := by
          intro x hx
          have := List.head?_dropWhile_not (Entry.inRange low high) rest
          rw [Option.mem_def.1 hx] at this
          simpa using this
        generalize runOf low high rest = run at hsplit hrun
        generalize rest.dropWhile (Entry.inRange low high) = later at hsplit hend
        subst hsplit
        rw [List.length_cons, List.length_append] at hn
        have hshorter : later.length < (e :: (run ++ later)).length := by
          rw [List.length_cons, List.length_append]
          omega
        have hlater := ih later.length hshorter (by omega) rfl
        rw [exists_reads_cons_range hid hrun hend, wellFormed_cons_range hid hrun hend, hlater]
        constructor
        · rintro ⟨hhead, -, hrest⟩
          exact ⟨hhead, hrest⟩
        · rintro ⟨hhead, hrest⟩
          exact ⟨hhead, by omega, hrest⟩

/-! ### Governors -/

/-- The words of a sentence are those of its entries for words. -/
theorem words_of_reads {es : List Entry} {units : UnitSentence} (h : Reads es units) :
    List.Forall₂ (fun e w => ∃ n, e.id.parse? = some (.word n) ∧ e.toWord n = .ok w) (es.filter Entry.isWord)
      (units.flatMap fun unit => unit.decomposition.words) := by
  induction h with
  | nil => exact .nil
  | word hid _ hw _ ih =>
    rw [List.filter_cons_of_pos (isWord_eq_true_iff.2 ⟨_, hid⟩), List.flatMap_cons]
    exact .cons ⟨_, hid, hw⟩ ih
  | @range _ _ _ _ taken _ _ _ hid _ _ _ hrun _ _ _ ih =>
    have hwords : taken.filter Entry.isWord = taken := by
      rw [List.filter_eq_self]
      intro x hx
      exact isWord_of_inRange (inRange_of_inRun hrun x hx)
    rw [List.filter_cons_of_neg (by simp [isWord_of_range hid]), List.filter_append, hwords, List.flatMap_cons]
    refine List.rel_append (hrun.imp ?_) ih
    rintro e w ⟨n, hid, -, -, hw⟩
    exact ⟨n, hid, hw⟩

theorem headsWithin_iff {es : List Entry} {units : UnitSentence} (h : Reads es units) :
    HeadsWithin units ↔
      ∀ e ∈ es, e.isWord = true → ∀ head, e.head = some head → head ≤ (es.filter Entry.isWord).length := by
  have hwords := words_of_reads h
  have hcount : wordCount units = (es.filter Entry.isWord).length := hwords.length_eq.symm
  have hheads : (∀ e ∈ es.filter Entry.isWord, ∀ head, e.head = some head → head ≤ wordCount units) ↔
      ∀ w ∈ units.flatMap fun unit => unit.decomposition.words,
        ∀ head : Int, w.head = .oneBased head → head ≤ wordCount units := by
    refine forall_mem_congr (hwords.imp ?_)
    rintro e w ⟨n, -, hw⟩
    obtain ⟨head, _, _, _, hh, -, -, -, rfl⟩ := toWord_eq_ok_iff.1 hw
    simp [hh]
  rw [← hcount, HeadsWithin, ← List.forall_mem_flatMap, ← hheads]
  simp only [List.mem_filter, and_imp]

/-! ### Reading a document -/

theorem exists_readSentence_iff {es : List Entry} (hn : es.length < countLimit) :
    (∃ units, readSentence es = .ok units) ↔ Grammatical es := by
  simp only [readSentence_eq_ok_iff]
  constructor
  · rintro ⟨units, hr, hh⟩
    exact ⟨(exists_reads_iff hn).1 ⟨units, hr⟩, (headsWithin_iff hr).1 hh⟩
  · intro h
    obtain ⟨units, hr⟩ := (exists_reads_iff hn).2 h.toWellFormed
    exact ⟨units, hr, (headsWithin_iff hr).2 h.heads⟩

/-- **The reader accepts exactly the grammatical sentences.** It reads a list of sentences when every one is
grammatical, and from a text with any other sentences it makes nothing but a failure of its own. -/
theorem readSentences_grammatical {sentences : List (List Entry)} (hn : ∀ es ∈ sentences, es.length < countLimit) :
    ((∃ units, readSentences sentences = .ok units) ↔ ∀ es ∈ sentences, Grammatical es) ∧
      ∀ text, entriesOfText text = .ok sentences →
        ((∃ units, Pipeline.stanza.read text = .ok units) ↔ ∀ es ∈ sentences, Grammatical es) ∧
          (¬(∀ es ∈ sentences, Grammatical es) → ∃ p, Pipeline.stanza.read text = .error (.stanza p)) := by
  have hread : (∃ units, readSentences sentences = .ok units) ↔ ∀ es ∈ sentences, Grammatical es := by
    simp only [readSentences, mapM_eq_ok_iff, exists_forall₂_iff]
    exact forall₂_congr fun es hes => exists_readSentence_iff (hn es hes)
  refine ⟨hread, fun text htext => ?_⟩
  have htext' : Pipeline.stanza.read text = (readSentences sentences).mapError .stanza := by
    rw [Pipeline.read, htext]
    rfl
  rw [htext', ← hread]
  cases readSentences sentences with
  | ok units => exact ⟨iff_of_true ⟨units, rfl⟩ ⟨units, rfl⟩, fun h => absurd ⟨units, rfl⟩ h⟩
  | error p =>
    refine ⟨iff_of_false ?_ ?_, fun _ => ⟨p, rfl⟩⟩
    · rintro ⟨_, h⟩
      cases h
    · rintro ⟨_, h⟩
      cases h

/-- A range whose run has the same number twice, where the words have no texts, and a word behind it. -/
def repeatedText : String :=
  "[[\x7b\"id\":\"+1-2\",\"text\":\"del\"\x7d,[1,null,\"de\",\"P\",null,3,\"case\",null,null],
    [[1],null,\"el\",\"D\",null,-1,\"det\",null,null],[\"3\",\"mar\",\"mar\",\"N\",null,0,\"root\",7,null]]]"

def repeatedSentences : List (List Entry) :=
  [[⟨.text "+1-2", some "del", none, none, none, none, none, none, none⟩,
    ⟨.number 1, none, some "de", some "P", none, some 3, some "case", none, none⟩,
    ⟨.list [1], none, some "el", some "D", none, some (-1), some "det", none, none⟩,
    ⟨.text "3", some "mar", some "mar", some "N", none, some 0, some "root", some 7, none⟩]]

theorem repeatedSentences_grammatical :
    (∀ es ∈ repeatedSentences, es.length < countLimit) ∧ entriesOfText repeatedText = .ok repeatedSentences ∧
      (∀ es ∈ repeatedSentences, Grammatical es) ∧ ∃ units, Pipeline.stanza.read repeatedText = .ok units := by
  have hn : ∀ es ∈ repeatedSentences, es.length < countLimit := by decide
  have htext : entriesOfText repeatedText = .ok repeatedSentences := eq_ok_of_toOption (by decide +kernel)
  have hread : (readSentences repeatedSentences).toOption.isSome := by decide +kernel
  obtain ⟨units, hunits⟩ := Option.isSome_iff_exists.1 hread
  have hall := (readSentences_grammatical hn).1.1 ⟨units, eq_ok_of_toOption hunits⟩
  exact ⟨hn, htext, hall, ((readSentences_grammatical hn).2 repeatedText htext).1.2 hall⟩

end WordRecords.Stanza
