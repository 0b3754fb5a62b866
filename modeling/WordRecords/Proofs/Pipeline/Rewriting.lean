import Mathlib.Logic.Relation
import WordRecords.Pipeline
import WordRecords.Proofs.Json.Rewriting
import WordRecords.Proofs.Json.RoundTrip

/-!
# Pipeline output written in other ways

What a reader makes of the output of a pipeline depends on what the objects in it say, and not on how they are written
(`Pipeline.read_rewritten`): releases of a pipeline differ in the members that they add, in the order of members, and in
whether a missing analysis is `null` or not there.

`Pipeline.Changed` is one change anywhere in the output. It is put together from the structures of the output: a list of
lists of entries, or a document with a list of spans and a list of tokens.
-/

namespace WordRecords

open Json RecordShape

/-- An optional field that is left out or `null` counts as nothing. -/
theorem join_eq_of_null {α : Type} (read : Node → Reading α) {p : Prop} {x y : Option (Option α)}
    (h : x = y ∨ p ∧ (∀ v, x = some v → readOptional read null = .ok v) ∧
      ∀ v, y = some v → readOptional read null = .ok v) : x.join = y.join := by
  have hnone : ∀ {x : Option (Option α)}, (∀ v, x = some v → readOptional read null = .ok v) → x.join = none := by
    intro x hx
    cases x with
    | none => rfl
    | some v =>
      cases hx v rfl
      rfl
  rcases h with rfl | ⟨-, hx, hy⟩
  · rfl
  · rw [hnone hx, hnone hy]

theorem need_eq {ι : Type} {shape : RecordShape ι} {optional : ι → Prop} {f f' : shape.Filling}
    (h : Alike optional f f') {i : ι} (hi : ¬optional i) : f.need i = f'.need i := by
  rw [Filling.need, Filling.need, h.eq hi]

/-- Without optional fields nothing can be left out. -/
theorem lenient_false {ι α : Type} {shape : RecordShape ι} (build : shape.Filling → Reading α) :
    shape.Lenient (fun _ => False) build where
  null := by
    rintro i ⟨⟩
  build f f' h := congrArg build (funext fun i => h.eq not_false)

/-! ### Stanza -/

namespace Stanza

/-- The fields of an entry that may be left out: all but its identification. -/
def Entry.Optional (i : EntryField) : Prop := i ≠ .id

/-- A change of an entry. -/
def EntryChanged : Node → Node → Prop := entryShape.RecordChanged Entry.Optional fun _ _ _ => False

theorem entryShape_distinct : entryShape.Distinct where
  names := by decide
  mem i := by cases i <;> decide

theorem NativeId.unbroken_read : Unbroken NativeId.read := by
  intro node id h
  rw [NativeId.read] at h
  split at h
  · cases h
  · rename_i hnone
    exact Node.skipFault?_of_readFault? hnone

theorem Entry.unbroken_read : Unbroken Entry.read := by
  refine unbroken_readRecord entryShape_distinct (fun i => ?_) _
  cases i with
  | id => exact NativeId.unbroken_read
  | head => exact (unbroken_readInteger _ _).readOptional
  | startChar => exact unbroken_readCount.readOptional
  | text | lemmaForm | upos | feats | deprel | misc => exact unbroken_readText.readOptional

theorem Entry.respects_read : Respects EntryChanged Entry.read := by
  refine respects_readRecord entryShape_distinct ⟨fun i hi => ?_, fun f f' h => ?_⟩ fun i => respects_false _
  · cases i with
    | id => exact absurd rfl hi
    | text | lemmaForm | upos | feats | head | deprel | startChar | misc => exact ⟨none, rfl⟩
  · have hid : f.need .id = f'.need .id := need_eq h (not_not.2 rfl)
    have htext : (f .text).join = (f' .text).join := join_eq_of_null readText (h .text)
    have hlemma : (f .lemmaForm).join = (f' .lemmaForm).join := join_eq_of_null readText (h .lemmaForm)
    have hupos : (f .upos).join = (f' .upos).join := join_eq_of_null readText (h .upos)
    have hfeats : (f .feats).join = (f' .feats).join := join_eq_of_null readText (h .feats)
    have hhead : (f .head).join = (f' .head).join := join_eq_of_null readSigned (h .head)
    have hdeprel : (f .deprel).join = (f' .deprel).join := join_eq_of_null readText (h .deprel)
    have hstart : (f .startChar).join = (f' .startChar).join := join_eq_of_null readCount (h .startChar)
    have hmisc : (f .misc).join = (f' .misc).join := join_eq_of_null readText (h .misc)
    simp only [hid, htext, hlemma, hupos, hfeats, hhead, hdeprel, hstart, hmisc]

end Stanza

/-! ### spaCy -/

namespace Spacy

/-- The fields of a token that may be left out: its analysis. -/
def Token.Optional : TokenField → Prop
  | .id | .start | .stop => False
  | .pos | .morph | .lemmaForm | .dep | .head => True

/-- A change of a span. -/
def SpanChanged : Node → Node → Prop := spanShape.RecordChanged (fun _ => False) fun _ _ _ => False

/-- A change of a token. -/
def TokenChanged : Node → Node → Prop := tokenShape.RecordChanged Token.Optional fun _ _ _ => False

/-- A change inside a field of a document. -/
def DocFieldChanged : DocField → Node → Node → Prop
  | .text => fun _ _ => False
  | .sents => ListChanged SpanChanged
  | .tokens => ListChanged TokenChanged

/-- A change of a document. -/
def DocChanged : Node → Node → Prop := docShape.RecordChanged (fun _ => False) DocFieldChanged

theorem spanShape_distinct : spanShape.Distinct where
  names := by decide
  mem i := by cases i <;> decide

theorem tokenShape_distinct : tokenShape.Distinct where
  names := by decide
  mem i := by cases i <;> decide

theorem docShape_distinct : docShape.Distinct where
  names := by decide
  mem i := by cases i <;> decide

theorem Span.unbroken_read : Unbroken Span.read :=
  unbroken_readRecord spanShape_distinct (fun _ => unbroken_readCount) _

theorem Token.unbroken_read : Unbroken Token.read := by
  refine unbroken_readRecord tokenShape_distinct (fun i => ?_) _
  cases i with
  | id | start | stop => exact unbroken_readCount
  | pos | morph | lemmaForm | dep => exact unbroken_readText.readOptional
  | head => exact unbroken_readCount.readOptional

theorem Doc.unbroken_read : Unbroken Doc.read := by
  refine unbroken_readRecord docShape_distinct (fun i => ?_) _
  cases i with
  | text => exact unbroken_readText
  | sents => exact Span.unbroken_read.readList
  | tokens => exact Token.unbroken_read.readList

theorem Span.respects_read : Respects SpanChanged Span.read :=
  respects_readRecord spanShape_distinct (lenient_false _) fun _ => respects_false _

theorem Token.respects_read : Respects TokenChanged Token.read := by
  refine respects_readRecord tokenShape_distinct ⟨fun i hi => ?_, fun f f' h => ?_⟩ fun i => respects_false _
  · cases i with
    | id | start | stop => exact absurd hi not_false
    | pos | morph | lemmaForm | dep | head => exact ⟨none, rfl⟩
  · have hid : f.need .id = f'.need .id := need_eq h not_false
    have hstart : f.need .start = f'.need .start := need_eq h not_false
    have hstop : f.need .stop = f'.need .stop := need_eq h not_false
    have hpos : (f .pos).join = (f' .pos).join := join_eq_of_null readText (h .pos)
    have hmorph : (f .morph).join = (f' .morph).join := join_eq_of_null readText (h .morph)
    have hlemma : (f .lemmaForm).join = (f' .lemmaForm).join := join_eq_of_null readText (h .lemmaForm)
    have hdep : (f .dep).join = (f' .dep).join := join_eq_of_null readText (h .dep)
    have hhead : (f .head).join = (f' .head).join := join_eq_of_null readCount (h .head)
    simp only [hid, hstart, hstop, hpos, hmorph, hlemma, hdep, hhead]

theorem Doc.respects_read : Respects DocChanged Doc.read := by
  refine respects_readRecord docShape_distinct (lenient_false _) fun i => ?_
  cases i with
  | text => exact respects_false _
  | sents => exact Span.respects_read.readList
  | tokens => exact Token.respects_read.readList

end Spacy

/-! ### Both pipelines -/

namespace Pipeline

/-- A change somewhere in the output of a pipeline. -/
def Changed : Pipeline → Node → Node → Prop
  | .stanza => ListChanged (ListChanged Stanza.EntryChanged)
  | .spacy => Spacy.DocChanged

theorem exists_saysText_of_read {p : Pipeline} {text : String} {sentences : List UnitSentence}
    (h : p.read text = .ok sentences) : ∃ node, SaysText text node := by
  cases p with
  | stanza =>
    obtain ⟨entries, hentries, -⟩ := bind_eq_ok_iff.1 h
    obtain ⟨node, hnode, -⟩ :=
      (readWhole_eq_ok_iff Stanza.Entry.unbroken_read.readList.readList).1 (mapError_eq_ok_iff.1 hentries)
    exact ⟨node, hnode⟩
  | spacy =>
    obtain ⟨doc, hdoc, -⟩ := bind_eq_ok_iff.1 h
    obtain ⟨node, hnode, -⟩ := (readWhole_eq_ok_iff Spacy.Doc.unbroken_read).1 (mapError_eq_ok_iff.1 hdoc)
    exact ⟨node, hnode⟩

/-- One change leaves the sentences as they are. -/
theorem read_of_rewritten {p : Pipeline} {text text' : String} (htext : Rewritten p.Changed text text')
    {sentences : List UnitSentence} (h : p.read text = .ok sentences) : p.read text' = .ok sentences := by
  cases p with
  | stanza =>
    obtain ⟨entries, hentries, h⟩ := bind_eq_ok_iff.1 h
    have hread := readWhole_of_rewritten Stanza.Entry.unbroken_read.readList.readList
      Stanza.Entry.respects_read.readList.readList htext (mapError_eq_ok_iff.1 hentries)
    exact bind_eq_ok_iff.2 ⟨entries, mapError_eq_ok_iff.2 hread, h⟩
  | spacy =>
    obtain ⟨doc, hdoc, h⟩ := bind_eq_ok_iff.1 h
    have hread := readWhole_of_rewritten Spacy.Doc.unbroken_read Spacy.Doc.respects_read htext
      (mapError_eq_ok_iff.1 hdoc)
    exact bind_eq_ok_iff.2 ⟨doc, mapError_eq_ok_iff.2 hread, h⟩

/-- **The readers do not depend on how objects are written.** A text that is read successfully says something, and every
text that comes from it by any number of changes is read to the same sentences. -/
theorem read_rewritten {p : Pipeline} {text : String} {sentences : List UnitSentence}
    (h : p.read text = .ok sentences) :
    (∃ node, SaysText text node) ∧
      ∀ text', Relation.ReflTransGen (Rewritten p.Changed) text text' → p.read text' = .ok sentences := by
  refine ⟨exists_saysText_of_read h, fun text' hchain => ?_⟩
  induction hchain with
  | refl => exact h
  | tail _ hstep ih => exact read_of_rewritten hstep ih

/-- The output for a single word. -/
def wordOutput (entry : List (String × Node)) : Node := .ofList [.ofList [.ofMembers entry]]

/-- A greeting as one release writes it. -/
def greeting : List (String × Node) :=
  [("id", .ofNat 1), ("text", .ofString "Hola"), ("lemma", .ofString "hola"), ("upos", .ofString "INTJ"),
    ("head", .ofNat 0), ("deprel", .ofString "root")]

/-- A member that another release adds. -/
def namedEntities : String × Node := ("ner", .ofList [.ofMembers [("type", .ofString "O"), ("id", .ofList [])]])

/-- The greeting with another member, with a `null`, and in another order. -/
def laterGreeting : List (String × Node) := (("misc", null) :: namedEntities :: greeting).reverse

def greetingText : String :=
  "[[\x7b\"id\":1,\"text\":\"Hola\",\"lemma\":\"hola\",\"upos\":\"INTJ\",\"head\":0,\"deprel\":\"root\"\x7d]]"

def laterGreetingText : String :=
  "[[\x7b\"deprel\":\"root\",\"head\":0,\"upos\":\"INTJ\",\"lemma\":\"hola\",\"text\":\"Hola\",\"id\":1," ++
    "\"ner\":[\x7b\"type\":\"O\",\"id\":[]\x7d],\"misc\":null\x7d]]"

theorem saysText_wordOutput {text : String} {entry : List (String × Node)} (h : ∀ m ∈ entry, m.2.Complete)
    (htext : text.toList = (wordOutput entry).render .compact 0) : SaysText text (wordOutput entry) := by
  have hcomplete : (wordOutput entry).Complete :=
    .ofList (List.forall_mem_singleton.2 (.ofList (List.forall_mem_singleton.2 (.ofMembers h))))
  exact hcomplete.saysText .compact blanks_nil (htext.trans (List.append_nil _).symm)

theorem changed_wordOutput (entry entry' : List (String × Node))
    (h : Stanza.entryShape.MembersChanged Stanza.Entry.Optional (fun _ _ _ => False) (withNames entry)
      (withNames entry')) :
    Pipeline.stanza.Changed (wordOutput entry) (wordOutput entry') :=
  @ListChanged.item _ [] [] _ _ none (@ListChanged.item _ [] [] _ _ none (.object h))

theorem greeting_complete : ∀ m ∈ (("misc", null) :: namedEntities :: greeting), m.2.Complete := by
  simp only [List.forall_mem_cons, greeting, namedEntities, List.not_mem_nil, false_implies, implies_true, and_true,
    ofString_complete, ofNat_complete (show 0 < countLimit by decide), ofNat_complete (show 1 < countLimit by decide)]
  refine ⟨.scalar trivial, .ofList (List.forall_mem_singleton.2 (.ofMembers ?_))⟩
  simp only [List.forall_mem_cons, List.not_mem_nil, false_implies, implies_true, and_true, ofString_complete]
  exact ⟨trivial, .ofList (by simp)⟩

/-- One change after the other: the new member, the `null`, the order. -/
theorem laterGreeting_rewritten :
    Relation.ReflTransGen (Rewritten Pipeline.stanza.Changed) greetingText laterGreetingText := by
  have hall := greeting_complete
  have hgreeting : SaysText greetingText (wordOutput greeting) :=
    saysText_wordOutput (fun m hm => hall m (List.mem_cons_of_mem _ (List.mem_cons_of_mem _ hm))) (by decide +kernel)
  have hmember : SaysText (String.ofList ((wordOutput (namedEntities :: greeting)).render .compact 0))
      (wordOutput (namedEntities :: greeting)) :=
    saysText_wordOutput (fun m hm => hall m (List.mem_cons_of_mem _ hm)) String.toList_ofList
  have hnull : SaysText (String.ofList ((wordOutput (("misc", null) :: namedEntities :: greeting)).render .compact 0))
      (wordOutput (("misc", null) :: namedEntities :: greeting)) :=
    saysText_wordOutput hall String.toList_ofList
  have hlater : SaysText laterGreetingText (wordOutput laterGreeting) :=
    saysText_wordOutput (fun m hm => hall m (List.mem_reverse.1 hm)) (by decide +kernel)
  have hinsert := changed_wordOutput greeting (namedEntities :: greeting)
    (@MembersChanged.insert _ _ _ _ [] (withNames greeting) "ner" _ (by intro i; cases i <;> decide))
  have hwrite := changed_wordOutput (namedEntities :: greeting) (("misc", null) :: namedEntities :: greeting)
    (@MembersChanged.writeNull _ _ _ _ [] (withNames (namedEntities :: greeting)) Stanza.EntryField.misc
      (by simp [Stanza.Entry.Optional]) (by simp [withNames, greeting, namedEntities, Stanza.entryShape]))
  have horder := changed_wordOutput (("misc", null) :: namedEntities :: greeting) laterGreeting
    (.reorder ((List.reverse_perm _).symm.map _))
  exact ((Relation.ReflTransGen.single ⟨_, _, hgreeting, hinsert, hmember⟩).tail ⟨_, _, hmember, hwrite, hnull⟩).tail
    ⟨_, _, hnull, horder, hlater⟩

/-- The unit of the greeting. -/
def greetingUnit : SurfaceUnit where
  text := "Hola"
  offset := ⟨none, none⟩
  decomposition := .explicit [⟨1, "INTJ", none, "root", .oneBased 0, "hola"⟩]

theorem read_laterGreeting :
    Pipeline.stanza.read greetingText = .ok [[greetingUnit]] ∧
      Relation.ReflTransGen (Rewritten Pipeline.stanza.Changed) greetingText laterGreetingText ∧
      Pipeline.stanza.read laterGreetingText = .ok [[greetingUnit]] := by
  have hread : Pipeline.stanza.read greetingText = .ok [[greetingUnit]] := eq_ok_of_toOption (by decide +kernel)
  exact ⟨hread, laterGreeting_rewritten, (read_rewritten hread).2 _ laterGreeting_rewritten⟩

end Pipeline

end WordRecords
