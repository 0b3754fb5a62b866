import WordRecords.Proofs.Converter
import WordRecords.Proofs.Stanza.Alike
import WordRecords.Proofs.Stanza.Entry
import WordRecords.Proofs.Stanza.Identification
import WordRecords.Proofs.SurfaceUnit.Offset

/-!
# Output of older releases

Older releases write identifications as strings, and offsets as a field among other data. `Entry.Legacy` relates an
entry to the ways in which they may write it. As both say the same (`Entry.Legacy.alike`), a document and its older form
are converted alike (`convert_legacy`).
-/

namespace WordRecords.Stanza

/-! ### Identifications -/

/-- The identification in digits: a word by its number, a range by both numbers with a hyphen between. -/
def NativeId.legacy : NativeId → NativeId
  | .number n => .text (String.ofList (Text.writeCount n))
  | .list [n] => .text (String.ofList (Text.writeCount n))
  | .list [low, high] => .text (String.ofList (Text.writeCount low ++ '-' :: Text.writeCount high))
  | id => id

theorem parse?_writeCount {n : Nat} (h : n < countLimit) :
    NativeId.parse? (.text (String.ofList (Text.writeCount n))) = some (.word n) := by
  have hmem : '-' ∉ (String.ofList (Text.writeCount n)).toList := by
    rw [String.toList_ofList]
    exact Text.not_mem_writeCount (by decide)
  rw [parse?_text_of_not_mem hmem, String.toList_ofList, Text.readSignedCount?_writeCount h]
  rfl

theorem parse?_writeCount_hyphen {low high : Nat} (hlow : low < countLimit) (hhigh : high < countLimit) :
    NativeId.parse? (.text (String.ofList (Text.writeCount low ++ '-' :: Text.writeCount high))) =
      some (.range low high) := by
  rw [parse?_text_of_append String.toList_ofList (Text.not_mem_writeCount (by decide)),
    Text.readSignedCount?_writeCount hlow, Text.readSignedCount?_writeCount hhigh]
  rfl

theorem NativeId.InRange.parse?_legacy {id : NativeId} (h : id.InRange) : id.legacy.parse? = id.parse? := by
  rcases id with n | ns | s
  · exact parse?_writeCount h
  · rcases ns with _ | ⟨n, _ | ⟨m, _ | ⟨k, ns⟩⟩⟩
    · rfl
    · exact parse?_writeCount (h n (by simp))
    · exact parse?_writeCount_hyphen (h n (by simp)) (h m (by simp))
    · rfl
  · rfl

/-! ### Entries -/

/-- The ways in which an entry may have been written. -/
inductive Entry.Legacy : Entry → Entry → Prop
  /-- An entry without an offset differs in its identification only. -/
  | plain {e : Entry} (hs : e.startChar = none) : Legacy e { e with id := e.id.legacy }
  /-- An offset stands in a field among other data, of which no earlier one is an offset field. -/
  | offset {e : Entry} {n : Nat} {before after : List (List Char)} (hs : e.startChar = some n)
      (hb : ∀ field ∈ before, '|' ∉ field) (ha : ∀ field ∈ after, '|' ∉ field)
      (hfirst : ∀ field ∈ before, ∀ digits, ¬OffsetField digits field) :
      Legacy e {
        e with
        id := e.id.legacy
        startChar := none
        misc := some (String.ofList (Text.joinFields '|' (before ++ writeOffsetField n :: after))) }

theorem Entry.Legacy.alike {e e' : Entry} (h : e.Legacy e') (hr : e.InRange) : e.Alike e' := by
  have hid := hr.id.parse?_legacy.symm
  cases h with
  | plain hs => exact ⟨hid, rfl, rfl, rfl, rfl, rfl, rfl, rfl⟩
  | offset hs hb ha hfirst =>
    refine ⟨hid, rfl, rfl, rfl, rfl, rfl, rfl, ?_⟩
    rw [OffsetHint.resolve?, OffsetHint.resolve?, Entry.offsetHint, hs]
    exact (startChar?_joinFields (hr.startChar _ hs) hb ha hfirst).symm

/-! ### Documents -/

variable {c : Converter} {text text' : String} {ss ss' : List (List Entry)}

theorem convert_of_alike (hc : c.pipeline = .stanza) (ht : entriesOfText text = .ok ss)
    (ht' : entriesOfText text' = .ok ss') (h : List.Forall₂ (List.Forall₂ Entry.Alike) ss ss') :
    c.convert text = c.convert text' ∨
      ∃ p p', c.convert text = .error (.output (.stanza p)) ∧ c.convert text' = .error (.output (.stanza p')) := by
  have hsymm : List.Forall₂ (List.Forall₂ Entry.Alike) ss' ss :=
    h.flip.imp fun _ _ hes => hes.flip.imp fun _ _ he => he.symm
  cases hr : readSentences ss with
  | ok us =>
    obtain ⟨us', hr', hus⟩ := readSentences_alike hr h
    left
    rw [Converter.convert_of_readSentences_ok hc ht hr, Converter.convert_of_readSentences_ok hc ht' hr',
      assemble_congr hus]
  | error p =>
    right
    cases hr' : readSentences ss' with
    | ok us' =>
      obtain ⟨us, hus, -⟩ := readSentences_alike hr' hsymm
      rw [hr] at hus
      cases hus
    | error p' =>
      exact ⟨p, p', Converter.convert_of_readSentences_error hc ht hr,
        Converter.convert_of_readSentences_error hc ht' hr'⟩

/-- **A document and its older form are converted alike**: to the same document, or both not, for a reason of the same
kind. -/
theorem convert_legacy (hc : c.pipeline = .stanza) (ht : entriesOfText text = .ok ss)
    (ht' : entriesOfText text' = .ok ss') (h : List.Forall₂ (List.Forall₂ Entry.Legacy) ss ss') :
    (∀ doc, c.convert text = .ok doc ↔ c.convert text' = .ok doc) ∧
      (∀ e, c.convert text = .error e → ∃ e', c.convert text' = .error e' ∧ e'.kind = e.kind) := by
  have hr := entriesOfText_inRange ht
  have halike : List.Forall₂ (List.Forall₂ Entry.Alike) ss ss' := by
    refine ((List.forall₂_and_left _ _).2 ⟨hr, h⟩).imp fun es es' hes => ?_
    exact ((List.forall₂_and_left _ _).2 hes).imp fun e e' he => he.2.alike he.1
  rcases convert_of_alike hc ht ht' halike with heq | ⟨p, p', herr, herr'⟩
  · rw [heq]
    exact ⟨fun _ => Iff.rfl, fun e he => ⟨e, he, rfl⟩⟩
  · rw [herr, herr']
    refine ⟨fun doc => iff_of_false (by rintro ⟨⟩) (by rintro ⟨⟩), fun e he => ⟨_, rfl, ?_⟩⟩
    cases he
    rfl

/-- A token of two words, whose other data give another offset than its own. -/
def recentText : String :=
  "[[[[1,2],\"del\",null,null,null,null,null,5,\"start_char=7\"],[1,null,\"de\",\"P\",null,2,\"b\",null,null],
    [[2],null,\"el\",\"D\",null,0,\"a\",null,null]]]"

def recentEntries : List (List Entry) :=
  [[⟨.list [1, 2], some "del", none, none, none, none, none, some 5, some "start_char=7"⟩,
    ⟨.number 1, none, some "de", some "P", none, some 2, some "b", none, none⟩,
    ⟨.list [2], none, some "el", some "D", none, some 0, some "a", none, none⟩]]

/-- The same, with an empty field and a field like an offset field in front of the offset. -/
def olderText : String :=
  "[[[\"1-2\",\"del\",null,null,null,null,null,null,\"|start_char=x|start_char=5|start_char=6\"],
    [\"1\",null,\"de\",\"P\",null,2,\"b\",null,null],[\"2\",null,\"el\",\"D\",null,0,\"a\",null,null]]]"

def olderEntries : List (List Entry) :=
  [[⟨.text "1-2", some "del", none, none, none, none, none, none, some "|start_char=x|start_char=5|start_char=6"⟩,
    ⟨.text "1", none, some "de", some "P", none, some 2, some "b", none, none⟩,
    ⟨.text "2", none, some "el", some "D", none, some 0, some "a", none, none⟩]]

theorem olderEntries_legacy : List.Forall₂ (List.Forall₂ Entry.Legacy) recentEntries olderEntries := by
  have hfirst : ∀ field ∈ [[], "start_char=x".toList], ∀ digits, ¬OffsetField digits field := by
    rw [List.forall_mem_cons, List.forall_mem_singleton]
    exact ⟨(startCharDigits?_eq_none_iff (by decide)).1 (by decide),
      (startCharDigits?_eq_none_iff (by decide)).1 (by decide)⟩
  refine .cons (.cons ?_ (.cons (.plain rfl) (.cons (.plain rfl) .nil))) .nil
  exact @Entry.Legacy.offset _ 5 [[], "start_char=x".toList] ["start_char=6".toList] rfl (by decide) (by decide) hfirst

theorem convert_olderText :
    entriesOfText recentText = .ok recentEntries ∧ entriesOfText olderText = .ok olderEntries ∧
      List.Forall₂ (List.Forall₂ Entry.Legacy) recentEntries olderEntries ∧
      ∃ doc, (⟨.stanza, "1.9.2", .grouped, [], none⟩ : Converter).convert recentText = .ok doc ∧
        (⟨.stanza, "1.9.2", .grouped, [], none⟩ : Converter).convert olderText = .ok doc := by
  have ht : entriesOfText recentText = .ok recentEntries := eq_ok_of_toOption (by decide +kernel)
  have ht' : entriesOfText olderText = .ok olderEntries := eq_ok_of_toOption (by decide +kernel)
  have hsome : ((⟨.stanza, "1.9.2", .grouped, [], none⟩ : Converter).convert recentText).toOption.isSome := by
    decide +kernel
  obtain ⟨doc, hdoc⟩ := Option.isSome_iff_exists.1 hsome
  have h := eq_ok_of_toOption hdoc
  exact ⟨ht, ht', olderEntries_legacy, doc, h, ((convert_legacy rfl ht ht' olderEntries_legacy).1 doc).1 h⟩

end WordRecords.Stanza
