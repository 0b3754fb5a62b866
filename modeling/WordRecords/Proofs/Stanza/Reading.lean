import WordRecords.Proofs.Steps
import WordRecords.Stanza.Sentence

/-!
# What a sentence of entries reads as

`Reads entries units` says without any loop which units a list of entries makes: an entry for a word is a unit, and so
is an entry for a range with the run of words behind it. `readUnits_eq_ok_iff` states that the reader finds exactly
these units. `readSentence_eq_ok_iff` adds its last check, that no word has a governor past the last word.
-/

namespace WordRecords.Stanza

/-! ### Entries -/

theorem surfaceText_eq_ok_iff {e : Entry} {text : String} : e.surfaceText = .ok text ↔ e.text = some text := by
  unfold Entry.surfaceText
  split
  · rename_i h
    rw [h, Except.ok.injEq, Option.some.injEq]
  · rename_i h
    rw [h]
    constructor <;> intro h <;> cases h

theorem need_eq_ok_iff {α : Type} {e : Entry} {field : String} {value? : Option α} {value : α} :
    e.need field value? = .ok value ↔ value? = some value := by
  unfold Entry.need
  split
  · rw [Except.ok.injEq, Option.some.injEq]
  · constructor <;> intro h <;> cases h

/-- The word that an entry with a complete analysis describes. -/
theorem toWord_eq_ok_iff {e : Entry} {nativeId : Nat} {word : Word} :
    e.toWord nativeId = .ok word ↔ ∃ head pos dep lemmaForm, e.head = some head ∧ e.upos = some pos ∧
      e.deprel = some dep ∧ e.lemmaForm = some lemmaForm ∧
      word = ⟨nativeId, pos, e.feats.filter fun features => features ≠ "", dep, .oneBased head, lemmaForm⟩ := by
  simp only [Entry.toWord, bind_eq_ok_iff, need_eq_ok_iff]
  constructor
  · rintro ⟨head, hh, pos, hp, dep, hd, lemmaForm, hl, h⟩
    cases h
    exact ⟨head, pos, dep, lemmaForm, hh, hp, hd, hl, rfl⟩
  · rintro ⟨head, pos, dep, lemmaForm, hh, hp, hd, hl, rfl⟩
    exact ⟨head, hh, pos, hp, dep, hd, lemmaForm, hl, rfl⟩

/-! ### Runs of words -/

/-- The entry describes the word, and its number lies in the range. -/
def InRun (low high : Nat) (e : Entry) (word : Word) : Prop :=
  ∃ n, e.id.parse? = some (.word n) ∧ low ≤ n ∧ n ≤ high ∧ e.toWord n = .ok word

/-- No more words of the range follow: the entries are at their end, or go on with a known identification that is not of
the range. -/
def RunEnds (low high : Nat) : List Entry → Prop
  | [] => True
  | e :: _ => ∃ id, e.id.parse? = some id ∧ ∀ n, id = .word n → ¬(low ≤ n ∧ n ≤ high)

theorem readRun_eq_ok_iff {low high : Nat} {es later : List Entry} {words : List Word} :
    readRun low high es = .ok (words, later) ↔
      ∃ taken, es = taken ++ later ∧ List.Forall₂ (InRun low high) taken words ∧ RunEnds low high later := by
  induction es generalizing words with
  | nil =>
    constructor
    · intro h
      cases h
      exact ⟨[], rfl, .nil, trivial⟩
    · rintro ⟨taken, htaken, hrun, -⟩
      obtain ⟨rfl, rfl⟩ := List.append_eq_nil_iff.1 htaken.symm
      cases hrun
      rfl
  | cons e rest ih =>
    rw [readRun]
    constructor
    · intro h
      split at h
      · cases h
      · rename_i hid
        cases h
        exact ⟨[], rfl, .nil, _, hid, fun _ h => by cases h⟩
      · rename_i n hid
        split at h
        · rename_i hin
          split at h
          · cases h
          · cases h
          · rename_i word words' later' hw hr
            cases h
            obtain ⟨taken, rfl, hrun, hend⟩ := ih.1 hr
            exact ⟨e :: taken, rfl, .cons ⟨n, hid, hin.1, hin.2, hw⟩ hrun, hend⟩
        · rename_i hout
          cases h
          refine ⟨[], rfl, .nil, _, hid, ?_⟩
          rintro _ ⟨⟩
          exact hout
    · rintro ⟨taken, htaken, hrun, hend⟩
      cases hrun with
      | nil =>
        obtain rfl : e :: rest = later := htaken
        obtain ⟨id, hid, hout⟩ := hend
        rw [hid]
        cases id with
        | range _ _ => rfl
        | word n => exact if_neg (hout n rfl)
      | cons hw hrun =>
        obtain ⟨rfl, rfl⟩ : e = _ ∧ rest = _ := List.cons_eq_cons.1 htaken
        obtain ⟨n, hid, hlow, hhigh, hword⟩ := hw
        rw [hid]
        simp only [if_pos (And.intro hlow hhigh), hword, ih.2 ⟨_, rfl, hrun, hend⟩]

/-! ### Units -/

theorem checkRange_eq_ok_iff {text : String} {low high : Nat} {u : Unit} :
    checkRange text low high = .ok u ↔ low ≤ high ∧ high - low + 1 < countLimit := by
  unfold checkRange
  split
  · rename_i h
    exact iff_of_false (by rintro ⟨⟩) fun h' => Nat.not_le_of_lt h h'.1
  · split
    · rename_i h
      exact iff_of_false (by rintro ⟨⟩) fun h' => Nat.not_le_of_lt h'.2 h
    · rename_i h h'
      exact iff_of_true rfl ⟨Nat.le_of_not_lt h, Nat.lt_of_not_le h'⟩

theorem rangeUnit_eq_ok_iff {e : Entry} {text : String} {low high : Nat} {words : List Word} {unit : SurfaceUnit} :
    rangeUnit e text low high words = .ok unit ↔
      words.length = high - low + 1 ∧ unit = ⟨text, e.offsetHint, .explicit words⟩ := by
  unfold rangeUnit
  split
  · rename_i h
    rw [Except.ok.injEq, eq_comm]
    exact (and_iff_right h).symm
  · rename_i h
    exact iff_of_false (by rintro ⟨⟩) fun h' => h h'.1

/-- The units that entries make. -/
inductive Reads : List Entry → UnitSentence → Prop
  | nil : Reads [] []
  /-- An entry for a word. -/
  | word {e : Entry} {n : Nat} {text : String} {w : Word} {rest : List Entry} {units : UnitSentence}
      (hid : e.id.parse? = some (.word n)) (htext : e.text = some text) (hw : e.toWord n = .ok w)
      (hrest : Reads rest units) : Reads (e :: rest) (⟨text, e.offsetHint, .single w⟩ :: units)
  /-- An entry for a range, with its run. -/
  | range {e : Entry} {low high : Nat} {text : String} {taken later : List Entry} {words : List Word}
      {units : UnitSentence} (hid : e.id.parse? = some (.range low high)) (htext : e.text = some text)
      (hle : low ≤ high) (hcount : high - low + 1 < countLimit) (hrun : List.Forall₂ (InRun low high) taken words)
      (hend : RunEnds low high later) (hlen : words.length = high - low + 1) (hlater : Reads later units) :
      Reads (e :: (taken ++ later)) (⟨text, e.offsetHint, .explicit words⟩ :: units)

/-- What one unit takes from the entries, and the unit. -/
theorem readUnit_eq_ok_iff {e : Entry} {rest later : List Entry} {unit : SurfaceUnit} :
    readUnit e rest = .ok (unit, later) ↔
      (∃ n text w, e.id.parse? = some (.word n) ∧ e.text = some text ∧ e.toWord n = .ok w ∧
        unit = ⟨text, e.offsetHint, .single w⟩ ∧ later = rest) ∨
      (∃ low high text taken words, e.id.parse? = some (.range low high) ∧ e.text = some text ∧ low ≤ high ∧
        high - low + 1 < countLimit ∧ rest = taken ++ later ∧ List.Forall₂ (InRun low high) taken words ∧
        RunEnds low high later ∧ words.length = high - low + 1 ∧ unit = ⟨text, e.offsetHint, .explicit words⟩) := by
  rw [readUnit]
  rcases hid : e.id.parse? with _ | ⟨n⟩ | ⟨low, high⟩
  · constructor
    · intro h
      cases h
    · rintro (⟨_, _, _, h, -⟩ | ⟨_, _, _, _, _, h, -⟩) <;> cases h
  · simp only [bind_eq_ok_iff, surfaceText_eq_ok_iff]
    constructor
    · rintro ⟨text, htext, w, hw, h⟩
      cases h
      exact Or.inl ⟨n, text, w, rfl, htext, hw, rfl, rfl⟩
    · rintro (⟨_, text, w, ⟨⟩, htext, hw, rfl, rfl⟩ | ⟨_, _, _, _, _, h, -⟩)
      · exact ⟨text, htext, w, hw, rfl⟩
      · cases h
  · simp only [bind_eq_ok_iff, surfaceText_eq_ok_iff, checkRange_eq_ok_iff]
    constructor
    · rintro ⟨text, htext, _, ⟨hle, hcount⟩, ⟨words, later'⟩, hr, _, hu, h⟩
      cases h
      obtain ⟨taken, rfl, hrun, hend⟩ := readRun_eq_ok_iff.1 hr
      obtain ⟨hlen, rfl⟩ := rangeUnit_eq_ok_iff.1 hu
      exact Or.inr ⟨low, high, text, taken, words, rfl, htext, hle, hcount, rfl, hrun, hend, hlen, rfl⟩
    · rintro (⟨_, _, _, h, -⟩ | ⟨_, _, text, taken, words, ⟨⟩, htext, hle, hcount, rfl, hrun, hend, hlen, rfl⟩)
      · cases h
      · exact ⟨text, htext, (), ⟨hle, hcount⟩, (words, later), readRun_eq_ok_iff.2 ⟨taken, rfl, hrun, hend⟩, _,
          rangeUnit_eq_ok_iff.2 ⟨hlen, rfl⟩, rfl⟩

theorem readUnits_cons_eq_ok_iff {e : Entry} {rest : List Entry} {units : UnitSentence} :
    readUnits (e :: rest) = .ok units ↔
      ∃ unit later units', readUnit e rest = .ok (unit, later) ∧ readUnits later = .ok units' ∧
        units = unit :: units' := by
  rw [readUnits]
  constructor
  · intro h
    split at h
    · cases h
    · rename_i unit later hu
      split at h
      · cases h
      · rename_i units' hus
        cases h
        exact ⟨unit, later, units', hu, hus, rfl⟩
  · rintro ⟨unit, later, units', hu, hus, rfl⟩
    split
    · rename_i hu'
      rw [hu] at hu'
      cases hu'
    · rename_i hu'
      rw [hu] at hu'
      cases hu'
      rw [hus]

/-- **The reader finds the units that entries make**, and no others. -/
theorem readUnits_eq_ok_iff {entries : List Entry} {units : UnitSentence} :
    readUnits entries = .ok units ↔ Reads entries units := by
  constructor
  · -- a unit may take several entries, hence the induction on their number
    induction hn : entries.length using Nat.strongRecOn generalizing entries units with
    | _ n ih =>
      subst hn
      intro h
      cases entries with
      | nil =>
        rw [readUnits] at h
        cases h
        exact .nil
      | cons e rest =>
        obtain ⟨unit, later, units', hu, hus, rfl⟩ := readUnits_cons_eq_ok_iff.1 h
        have hlt : later.length < (e :: rest).length := Nat.lt_succ_of_le (length_readUnit hu)
        have hlater := ih later.length hlt rfl hus
        rcases readUnit_eq_ok_iff.1 hu with ⟨n, text, w, hid, htext, hw, rfl, rfl⟩ |
          ⟨low, high, text, taken, words, hid, htext, hle, hcount, rfl, hrun, hend, hlen, rfl⟩
        · exact .word hid htext hw hlater
        · exact .range hid htext hle hcount hrun hend hlen hlater
  · intro h
    induction h with
    | nil => rw [readUnits]
    | word hid htext hw _ ih =>
      exact readUnits_cons_eq_ok_iff.2
        ⟨_, _, _, readUnit_eq_ok_iff.2 (Or.inl ⟨_, _, _, hid, htext, hw, rfl, rfl⟩), ih, rfl⟩
    | range hid htext hle hcount hrun hend hlen _ ih =>
      exact readUnits_cons_eq_ok_iff.2 ⟨_, _, _, readUnit_eq_ok_iff.2
        (Or.inr ⟨_, _, _, _, _, hid, htext, hle, hcount, rfl, hrun, hend, hlen, rfl⟩), ih, rfl⟩

/-! ### Governors -/

/-- No word has a governor past the last word. -/
def HeadsWithin (units : UnitSentence) : Prop :=
  ∀ unit ∈ units, ∀ word ∈ unit.decomposition.words, ∀ n : Int, word.head = .oneBased n → n ≤ wordCount units

theorem headOutside?_eq_none_iff {words : Nat} {unit : SurfaceUnit} :
    headOutside? words unit = none ↔
      ∀ word ∈ unit.decomposition.words, ∀ n : Int, word.head = .oneBased n → n ≤ words := by
  rw [headOutside?, List.findSome?_eq_none_iff]
  refine forall₂_congr fun word _ => ?_
  cases word.head with
  | absolute _ _ =>
    refine iff_of_true rfl ?_
    rintro _ ⟨⟩
  | oneBased head =>
    by_cases hh : (words : Int) < head
    · refine iff_of_false (by simp [hh]) fun h => ?_
      exact absurd (h head rfl) (Int.not_le.2 hh)
    · refine iff_of_true (if_neg hh) ?_
      rintro _ ⟨⟩
      exact Int.not_lt.1 hh

/-- A sentence is read when its entries make units in which no governor lies past the last word. -/
theorem readSentence_eq_ok_iff {entries : List Entry} {units : UnitSentence} :
    readSentence entries = .ok units ↔ Reads entries units ∧ HeadsWithin units := by
  have key : ∀ us : UnitSentence, us.findSome? (headOutside? (wordCount us)) = none ↔ HeadsWithin us := by
    intro us
    rw [List.findSome?_eq_none_iff]
    exact forall₂_congr fun unit _ => headOutside?_eq_none_iff
  rw [readSentence, bind_eq_ok_iff]
  constructor
  · rintro ⟨us, hus, h⟩
    split at h
    · cases h
    · rename_i hnone
      cases h
      exact ⟨readUnits_eq_ok_iff.1 hus, (key units).1 hnone⟩
  · rintro ⟨hr, hh⟩
    refine ⟨units, readUnits_eq_ok_iff.2 hr, ?_⟩
    rw [(key units).2 hh]
    rfl

theorem nativeId_of_toWord {e : Entry} {n : Nat} {w : Word} (h : e.toWord n = .ok w) : w.nativeId = n := by
  obtain ⟨_, _, _, _, -, -, -, -, rfl⟩ := toWord_eq_ok_iff.1 h
  rfl

theorem oneBased_of_toWord {e : Entry} {n : Nat} {w : Word} (h : e.toWord n = .ok w) : ∃ i, w.head = .oneBased i := by
  obtain ⟨head, _, _, _, -, -, -, -, rfl⟩ := toWord_eq_ok_iff.1 h
  exact ⟨head, rfl⟩

/-- Every unit lists its words, which count their governors from one. -/
theorem explicit_of_reads {entries : List Entry} {units : UnitSentence} (h : Reads entries units) :
    ∀ unit ∈ units, ∃ words, unit.decomposition = .explicit words ∧ ∀ w ∈ words, ∃ i, w.head = .oneBased i := by
  induction h with
  | nil =>
    intro unit hu
    cases hu
  | @word _ _ _ w _ _ _ _ hw _ ih =>
    intro unit hu
    rcases List.mem_cons.1 hu with rfl | hu
    · refine ⟨[w], rfl, fun w' hw' => ?_⟩
      rw [List.mem_singleton.1 hw']
      exact oneBased_of_toWord hw
    · exact ih unit hu
  | range _ _ _ _ hrun _ _ _ ih =>
    intro unit hu
    rcases List.mem_cons.1 hu with rfl | hu
    · refine ⟨_, rfl, fun w hw => ?_⟩
      obtain ⟨e, -, n, -, -, -, he⟩ := exists_of_mem_right hrun hw
      exact oneBased_of_toWord he
    · exact ih unit hu

end WordRecords.Stanza
