import Mathlib.Data.List.Perm.Subperm
import Mathlib.Data.List.Range
import WordRecords.Proofs.Stanza.Grammar

/-!
# Words of ranges

A range announces the words with its numbers, each once and in order. The reader looks at the numbers of the entries
behind it one by one, to see whether they are in the range, and then counts the entries. So the unit of a range has as
many words as it has numbers, all numbered within it (`unitOfRange_of_reads`), but a number may be there twice and
another one not at all. `readSentence_range_iff` states which runs have the words that their range announces.
-/

namespace WordRecords.Stanza

/-! ### Numbers in a range -/

section Numbers

variable {low count : Nat} {ns : List Nat}

/-- As many numbers as a range has are those of the range when none is there twice. -/
theorem perm_range'_iff (hcount : ns.length = count) (hin : ∀ n ∈ ns, n ∈ List.range' low count) :
    ns.Perm (List.range' low count) ↔ ns.Nodup := by
  constructor
  · intro h
    exact h.nodup_iff.2 List.nodup_range'
  · intro h
    refine (List.subperm_of_subset h hin).perm_of_length_le ?_
    rw [List.length_range', hcount]

/-- They are in the order of the range when each is greater than those before it. -/
theorem eq_range'_iff (hcount : ns.length = count) (hin : ∀ n ∈ ns, n ∈ List.range' low count) :
    ns = List.range' low count ↔ ns.Pairwise (· < ·) := by
  constructor
  · rintro rfl
    exact List.pairwise_lt_range'
  · intro h
    have hperm := (perm_range'_iff hcount hin).2 (h.imp Nat.ne_of_lt)
    exact hperm.eq_of_pairwise (fun a b _ _ hab hba => absurd hab (Nat.lt_asymm hba)) h List.pairwise_lt_range'

end Numbers

/-- The number of the word that an entry describes. -/
def Entry.number? (e : Entry) : Option Nat :=
  match e.id.parse? with
  | some (.word n) => some n
  | _ => none

/-- The numbers of the words among entries. -/
def numbersOf (es : List Entry) : List Nat := es.filterMap Entry.number?

theorem numbersOf_of_inRun {low high : Nat} {run : List Entry} {words : List Word}
    (h : List.Forall₂ (InRun low high) run words) : numbersOf run = words.map Word.nativeId := by
  induction h with
  | nil => rfl
  | @cons e _ _ _ he _ ih =>
    obtain ⟨n, hid, -, -, hw⟩ := he
    have hnumber : e.number? = some n := by rw [Entry.number?, hid]
    rw [numbersOf, List.filterMap_cons_some hnumber, List.map_cons, nativeId_of_toWord hw, ← ih]
    rfl

theorem mem_range'_of_inRun {low high : Nat} {run : List Entry} {words : List Word}
    (h : List.Forall₂ (InRun low high) run words) :
    ∀ n ∈ words.map Word.nativeId, n ∈ List.range' low (high - low + 1) := by
  refine List.forall_mem_map.2 fun w hw => ?_
  obtain ⟨e, -, n, -, hlow, hhigh, he⟩ := exists_of_mem_right h hw
  rw [nativeId_of_toWord he, List.mem_range'_1]
  omega

/-! ### The unit of a range -/

theorem runEnds_of_append {low high : Nat} {es es' : List Entry} (h : RunEnds low high (es ++ es')) :
    RunEnds low high es := by
  cases es with
  | nil => trivial
  | cons e es => exact h

/-- A range makes a unit behind the units of the entries before it. -/
def UnitOfRange (units : UnitSentence) (before : List Entry) (e : Entry) (after : List Entry) : Prop :=
  ∀ low high, e.id.parse? = some (.range low high) → ∃ earlier text words later,
    units = earlier ++ ⟨text, e.offsetHint, .explicit words⟩ :: later ∧ Reads before earlier ∧ e.text = some text ∧
      List.Forall₂ (InRun low high) (runOf low high after) words ∧ words.length = high - low + 1

theorem unitOfRange_of_reads {es : List Entry} {units : UnitSentence} (h : Reads es units) :
    ∀ before e after, es = before ++ e :: after → UnitOfRange units before e after := by
  induction h with
  | nil =>
    intro before e after hs
    simp at hs
  | word hid htext hw _ ih =>
    refine forall_split_cons.2 ⟨fun low high hr => ?_, fun before e after hs low high hr => ?_⟩
    · rw [hid] at hr
      cases hr
    · obtain ⟨earlier, text, words, later, rfl, hbefore, hrange⟩ := ih before e after hs low high hr
      exact ⟨_ :: earlier, text, words, later, rfl, .word hid htext hw hbefore, hrange⟩
  | range hid htext hle hcount hrun hend hlen hlater ih =>
    refine forall_split_cons.2 ⟨fun low high hr => ?_, forall_split_append.2 ⟨?_, ?_⟩⟩
    · rw [hid] at hr
      cases hr
      refine ⟨[], _, _, _, rfl, .nil, htext, ?_, hlen⟩
      rwa [runOf_of_inRun hrun hend]
    · -- no entry of a run is a range
      rintro before e after rfl low high hr
      obtain ⟨w, -, n, hn, -⟩ := exists_of_mem_left hrun (x := e) (by simp)
      rw [hn] at hr
      cases hr
    · intro before e after hs low high hr
      obtain ⟨earlier, text, words, later, rfl, hbefore, hrange⟩ := ih before e after hs low high hr
      -- the run behind the first range also ends where the entries before the other one do
      rw [hs] at hend
      exact ⟨_ :: earlier, text, words, later, rfl,
        .range hid htext hle hcount hrun (runEnds_of_append hend) hlen hbefore, hrange⟩

/-- **The numbers of a range are only counted.** In a sentence that is read, a range has the unit of its run. Its words
are those of the range, in order, exactly when the numbers of the run increase, and in some order exactly when no number
is there twice. With a run of another length than that of the range, the sentence is not read. -/
theorem readSentence_range_iff {e : Entry} {low high : Nat} (before after : List Entry)
    (hid : e.id.parse? = some (.range low high)) :
    (∀ units, readSentence (before ++ e :: after) = .ok units → ∃ earlier text words later,
        units = earlier ++ ⟨text, e.offsetHint, .explicit words⟩ :: later ∧ Reads before earlier ∧ e.text = some text ∧
        List.Forall₂ (InRun low high) (runOf low high after) words ∧ words.length = high - low + 1 ∧
        (words.map Word.nativeId = List.range' low (high - low + 1) ↔
          (numbersOf (runOf low high after)).Pairwise (· < ·)) ∧
        ((words.map Word.nativeId).Perm (List.range' low (high - low + 1)) ↔
          (numbersOf (runOf low high after)).Nodup)) ∧
      ((runOf low high after).length ≠ high - low + 1 → ∃ p, readSentence (before ++ e :: after) = .error p) := by
  have hunit : ∀ units, readSentence (before ++ e :: after) = .ok units → UnitOfRange units before e after :=
    fun units h => unitOfRange_of_reads (readSentence_eq_ok_iff.1 h).1 before e after rfl
  constructor
  · intro units h
    obtain ⟨earlier, text, words, later, hunits, hbefore, htext, hrun, hlen⟩ := hunit units h low high hid
    have hin := mem_range'_of_inRun hrun
    have hcount : (words.map Word.nativeId).length = high - low + 1 := by rw [List.length_map, hlen]
    refine ⟨earlier, text, words, later, hunits, hbefore, htext, hrun, hlen, ?_, ?_⟩
    · rw [numbersOf_of_inRun hrun]
      exact eq_range'_iff hcount hin
    · rw [numbersOf_of_inRun hrun]
      exact perm_range'_iff hcount hin
  · intro hne
    cases h : readSentence (before ++ e :: after) with
    | error p => exact ⟨p, rfl⟩
    | ok units =>
      obtain ⟨-, -, words, -, -, -, -, hrun, hlen⟩ := hunit units h low high hid
      exact absurd (hrun.length_eq.trans hlen) hne

/-- A contraction and its words. -/
def delEntry : Entry := ⟨.list [1, 2], some "del", none, none, none, none, none, some 0, none⟩

def deEntry : Entry := ⟨.number 1, some "de", some "de", some "ADP", none, some 2, some "case", none, none⟩

def elEntry (n : Nat) : Entry := ⟨.number n, some "el", some "el", some "DET", none, some 0, some "det", none, none⟩

def marEntry : Entry := ⟨.text "3", some "mar", some "mar", some "NOUN", none, some 0, some "root", some 4, none⟩

theorem readSentence_delEntry :
    delEntry.id.parse? = some (.range 1 2) ∧
      (∃ units, readSentence [delEntry, deEntry, elEntry 2, marEntry] = .ok units ∧ ∃ text words later,
        units = ⟨text, delEntry.offsetHint, .explicit words⟩ :: later ∧ words.map Word.nativeId = [1, 2]) ∧
      ∃ p, readSentence [delEntry, deEntry, marEntry] = .error p := by
  have hid : delEntry.id.parse? = some (.range 1 2) := rfl
  have hread : (readSentence [delEntry, deEntry, elEntry 2, marEntry]).toOption.isSome := by decide +kernel
  obtain ⟨units, hunits⟩ := Option.isSome_iff_exists.1 hread
  have hunits := eq_ok_of_toOption hunits
  refine ⟨hid, ⟨units, hunits, ?_⟩, (readSentence_range_iff [] _ hid).2 (by decide +kernel)⟩
  obtain ⟨earlier, text, words, later, rfl, hbefore, -, -, -, hnumbers, -⟩ :=
    (readSentence_range_iff [] _ hid).1 units hunits
  cases hbefore
  exact ⟨text, words, later, rfl, hnumbers.2 (by decide +kernel)⟩

/-- The first word of the contraction is there twice, and the second one not at all. -/
def doubledText : String :=
  "[[[[1,2],\"del\",null,null,null,null,null,0,null],[1,\"de\",\"de\",\"ADP\",null,2,\"case\",null,null],
    [1,\"el\",\"el\",\"DET\",null,0,\"det\",null,null]]]"

theorem readSentence_doubledText :
    entriesOfText doubledText = .ok [[delEntry, deEntry, elEntry 1]] ∧ delEntry.id.parse? = some (.range 1 2) ∧
      ∃ words, readSentence [delEntry, deEntry, elEntry 1] = .ok [⟨"del", delEntry.offsetHint, .explicit words⟩] ∧
        words.map Word.nativeId = [1, 1] :=
  ⟨eq_ok_of_toOption (by decide +kernel), rfl,
    [⟨1, "ADP", none, "case", .oneBased 2, "de"⟩, ⟨1, "DET", none, "det", .oneBased 0, "el"⟩],
    eq_ok_of_toOption (by decide +kernel), rfl⟩

end WordRecords.Stanza
