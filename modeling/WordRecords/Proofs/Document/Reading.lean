import WordRecords.Proofs.Document.Schema
import WordRecords.Proofs.Json.Sound

/-!
# What is read as a document

`Document.ofText_eq_ok_iff` says which objects are read as documents, and as which: there must be exactly one member
`labels` with a list of strings, and the sentences come from the member `sentences`, if there is exactly one and it is
a list of numbered sentences, else from the member `tokens`, if there is exactly one and it is a list of lists of
records. Nothing else in the object matters.

The shapes of sentences and records (`IsSentence`, `IsRecord`) are said without reference to the readers, and where they
ask for counts, so is the wording of these (`isCount_iff_digits`). The object is taken to be sound: a member of whatever
name is read whole before the schema is decided.
-/

namespace WordRecords

open Json RecordShape

/-! ### Shapes -/

/-- A list of values, each of a shape. -/
def IsList {α : Type} (shape : Node → α → Prop) (node : Node) (xs : List α) : Prop :=
  ∃ items, node = .ofList items ∧ List.Forall₂ shape items xs

/-- A string. -/
def IsText (node : Node) (s : String) : Prop := node = .ofString s

/-- An integer from 0 to 2^64 - 1. -/
def IsCount (node : Node) (n : Nat) : Prop := node = .ofNat n ∧ n < countLimit

/-- A value is a count where it is written with digits alone that denote it. -/
theorem isCount_iff_digits {cs : List Char} {node : Node} {n : Nat} (h : Says cs node) :
    IsCount node n ↔ WholeDigits cs ∧ Nat.ofDigitChars 10 cs 0 = n ∧ n < countLimit := by
  constructor
  · rintro ⟨rfl, -⟩
    exact says_ofNat_iff.1 h
  · intro hdigits
    exact ⟨h.unique (says_ofNat_iff.2 hdigits), hdigits.2.2⟩

/-- The members of an object that is a record: every field stands there exactly once. -/
structure RecordMembers (members : List (String × Node)) (r : Record) : Prop where
  id : HasOne members "id" (IsCount · r.id)
  pos : HasOne members "pos" (IsText · r.pos)
  tag : HasOne members "tag" (IsText · r.tag)
  dep : HasOne members "dep" (IsText · r.dep)
  head : HasOne members "head" (IsCount · r.head)
  text : HasOne members "text" (IsText · r.text)
  idx : HasOne members "idx" (IsCount · r.idx)
  index : HasOne members "index" (IsCount · r.index)
  lemmaForm : HasOne members "lemma" (IsText · r.lemmaForm)

/-- A record, as an object or as a list of its fields in order. -/
inductive IsRecord : Node → Record → Prop
  | object {members : List (String × Node)} {r : Record} (h : RecordMembers members r) : IsRecord (.ofMembers members) r
  | list {r : Record} (h : r.InRange) :
      IsRecord
        (.ofList [.ofNat r.id, .ofString r.pos, .ofString r.tag, .ofString r.dep, .ofNat r.head, .ofString r.text,
          .ofNat r.idx, .ofNat r.index, .ofString r.lemmaForm])
        r

/-- The members of an object that is a numbered sentence. -/
structure SentenceMembers (members : List (String × Node)) (s : Sentence) : Prop where
  id : HasOne members "id" (IsCount · s.id)
  records : HasOne members "tokens" (IsList IsRecord · s.records)

/-- A numbered sentence, as an object or as a list of its fields in order. -/
inductive IsSentence : Node → Sentence → Prop
  | object {members : List (String × Node)} {s : Sentence} (h : SentenceMembers members s) :
      IsSentence (.ofMembers members) s
  | list {id records : Node} {s : Sentence} (hid : IsCount id s.id) (hrecords : IsList IsRecord records s.records) :
      IsSentence (.ofList [id, records]) s

/-- The sentences that the members of a document hold. -/
inductive IsBody (members : List (String × Node)) : Body → Prop
  /-- The member `sentences` decides, whatever `tokens` is. -/
  | grouped {sentences : List Sentence} (h : HasOne members "sentences" (IsList IsSentence · sentences)) :
      IsBody members (.grouped sentences)
  /-- The member `tokens` does if `sentences` does not. -/
  | flat {sentences : List (List Record)} (hno : ∀ ss, ¬HasOne members "sentences" (IsList IsSentence · ss))
      (h : HasOne members "tokens" (IsList (IsList IsRecord) · sentences)) : IsBody members (.flat sentences)

theorem IsBody.exists_member {members : List (String × Node)} {b : Body} (h : IsBody members b) :
    (∃ ss, HasOne members "sentences" (IsList IsSentence · ss)) ∨
      ∃ ss, HasOne members "tokens" (IsList (IsList IsRecord) · ss) := by
  cases h with
  | grouped h => exact .inl ⟨_, h⟩
  | flat _ h => exact .inr ⟨_, h⟩

/-- One member with sentences is enough. -/
theorem exists_isBody {members : List (String × Node)}
    (h : (∃ ss, HasOne members "sentences" (IsList IsSentence · ss)) ∨
      ∃ ss, HasOne members "tokens" (IsList (IsList IsRecord) · ss)) : ∃ b, IsBody members b := by
  by_cases hgrouped : ∃ ss, HasOne members "sentences" (IsList IsSentence · ss)
  · obtain ⟨ss, hss⟩ := hgrouped
    exact ⟨_, .grouped hss⟩
  · obtain ⟨ss, hss⟩ := h.resolve_left hgrouped
    exact ⟨_, .flat (not_exists.1 hgrouped) hss⟩

/-! ### Readers and shapes -/

section Shapes

variable {α : Type} {node : Node} {depth : Nat}

theorem readList_eq_ok_iff_isList {read : Node → Reading α} {shape : Node → α → Prop}
    (h : ∀ node a, node.Sound depth → (read node = .ok a ↔ shape node a)) (hnode : node.Sound depth) {xs : List α} :
    readList read node = .ok xs ↔ IsList shape node xs := by
  rw [readList_eq_ok_iff, IsList]
  refine exists_congr fun items => and_congr_right ?_
  rintro rfl
  have hitems := hnode.item
  rw [List.forall₂_iff_zip, List.forall₂_iff_zip]
  refine and_congr_right fun _ => ?_
  constructor
  · intro hall item x hmem
    exact (h item x (hitems item (List.of_mem_zip hmem).1)).1 (hall hmem)
  · intro hall item x hmem
    exact (h item x (hitems item (List.of_mem_zip hmem).1)).2 (hall hmem)

theorem readTexts_eq_ok_iff (hnode : node.Sound depth) {xs : List String} :
    readList readText node = .ok xs ↔ IsList IsText node xs :=
  readList_eq_ok_iff_isList (fun _ _ _ => readText_eq_ok_iff) hnode

end Shapes

/-! ### Records and sentences -/

section Records

variable {node : Node} {depth : Nat}

theorem hasOne_isCount {members : List (String × Node)} {name : String} {n : Nat} :
    HasOne members name (fun node => readCount node = .ok n) ↔ HasOne members name (IsCount · n) :=
  hasOne_congr fun _ _ => readCount_eq_ok_iff

theorem hasOne_isText {members : List (String × Node)} {name s : String} :
    HasOne members name (fun node => readText node = .ok s) ↔ HasOne members name (IsText · s) :=
  hasOne_congr fun _ _ => readText_eq_ok_iff

theorem recordMembers_iff {members : List (String × Node)} {r : Record} :
    (∀ i, HasOne members (recordShape.name i) fun n => recordShape.read i n = .ok (r.slot i)) ↔
      RecordMembers members r := by
  constructor
  · intro h
    exact {
      id := hasOne_isCount.1 (h .id)
      pos := hasOne_isText.1 (h .pos)
      tag := hasOne_isText.1 (h .tag)
      dep := hasOne_isText.1 (h .dep)
      head := hasOne_isCount.1 (h .head)
      text := hasOne_isText.1 (h .text)
      idx := hasOne_isCount.1 (h .idx)
      index := hasOne_isCount.1 (h .index)
      lemmaForm := hasOne_isText.1 (h .lemmaForm) }
  · intro h i
    cases i with
    | id => exact hasOne_isCount.2 h.id
    | pos => exact hasOne_isText.2 h.pos
    | tag => exact hasOne_isText.2 h.tag
    | dep => exact hasOne_isText.2 h.dep
    | head => exact hasOne_isCount.2 h.head
    | text => exact hasOne_isText.2 h.text
    | idx => exact hasOne_isCount.2 h.idx
    | index => exact hasOne_isCount.2 h.index
    | lemmaForm => exact hasOne_isText.2 h.lemmaForm

theorem Record.build_eq_ok_iff (f : recordShape.Filling) (r : Record) :
    (do
      pure {
        id := ← f.need .id
        pos := ← f.need .pos
        tag := ← f.need .tag
        dep := ← f.need .dep
        head := ← f.need .head
        text := ← f.need .text
        idx := ← f.need .idx
        index := ← f.need .index
        lemmaForm := ← f.need .lemmaForm } : Reading Record) = .ok r ↔ ∀ i, f i = some (r.slot i) := by
  simp only [bind_eq_ok_iff, need_eq_ok_iff]
  constructor
  · rintro ⟨id, hid, pos, hpos, tag, htag, dep, hdep, head, hhead, text, htext, idx, hidx, index, hindex, lemmaForm,
      hlemma, h⟩ i
    cases h
    cases i with
    | id => exact hid
    | pos => exact hpos
    | tag => exact htag
    | dep => exact hdep
    | head => exact hhead
    | text => exact htext
    | idx => exact hidx
    | index => exact hindex
    | lemmaForm => exact hlemma
  · intro h
    exact ⟨_, h .id, _, h .pos, _, h .tag, _, h .dep, _, h .head, _, h .text, _, h .idx, _, h .index, _, h .lemmaForm,
      rfl⟩

theorem Record.inRange_iff_slots {r : Record} : r.InRange ↔ ∀ i, recordFieldInRange i (r.slot i) := by
  constructor
  · intro h i
    cases i with
    | id => exact h.id
    | head => exact h.head
    | idx => exact h.idx
    | index => exact h.index
    | pos | tag | dep | text | lemmaForm => trivial
  · intro h
    exact ⟨h .id, h .head, h .idx, h .index⟩

theorem Record.readField_eq_ok_iff {r : Record} (i : RecordField) {node : Node} :
    recordShape.read i node = .ok (r.slot i) ↔ r.fieldNode i = node ∧ recordFieldInRange i (r.slot i) := by
  cases i with
  | id | head | idx | index => exact readCount_eq_ok_iff.trans (and_congr_left fun _ => eq_comm)
  | pos | tag | dep | text | lemmaForm => exact readText_eq_ok_iff.trans (eq_comm.trans (and_iff_left trivial).symm)

theorem recordItems_iff {items : List Node} {r : Record} :
    List.Forall₂ (fun i n => recordShape.read i n = .ok (r.slot i)) recordShape.fields items ↔
      items = recordShape.fields.map r.fieldNode ∧ r.InRange := by
  simp only [Record.readField_eq_ok_iff, Record.inRange_iff_slots]
  constructor
  · intro h
    constructor
    · have hitems := List.forall₂_map_left_iff.2 (h.imp fun _ _ hn => hn.1)
      rw [List.forall₂_eq_eq_eq] at hitems
      exact hitems.symm
    · intro i
      obtain ⟨_, -, -, hrange⟩ := exists_of_mem_left h (recordShape_distinct.mem i)
      exact hrange
  · rintro ⟨rfl, hrange⟩
    exact List.forall₂_map_right_iff.2 (List.forall₂_same.2 fun i _ => ⟨rfl, hrange i⟩)

/-- When a record is read. -/
theorem Record.read_eq_ok_iff (h : node.Sound depth) {r : Record} : Record.read node = .ok r ↔ IsRecord node r := by
  rw [Record.read, readRecord_eq_ok_iff recordShape_distinct (fun _ => rfl) (fun f => Record.build_eq_ok_iff f r) h]
  constructor
  · rintro (⟨members, rfl, hall⟩ | ⟨items, rfl, hall⟩)
    · exact .object (recordMembers_iff.1 hall)
    · obtain ⟨rfl, hrange⟩ := recordItems_iff.1 hall
      exact .list hrange
  · rintro (hall | hrange)
    · exact .inl ⟨_, rfl, recordMembers_iff.2 hall⟩
    · exact .inr ⟨_, rfl, recordItems_iff.2 ⟨rfl, hrange⟩⟩

theorem readRecords_eq_ok_iff (h : node.Sound depth) {rs : List Record} :
    readList Record.read node = .ok rs ↔ IsList IsRecord node rs :=
  readList_eq_ok_iff_isList (fun _ _ hnode => Record.read_eq_ok_iff hnode) h

theorem Sentence.build_eq_ok_iff (f : sentenceShape.Filling) (s : Sentence) :
    (do pure { id := ← f.need .id, records := ← f.need .records } : Reading Sentence) = .ok s ↔
      ∀ i, f i = some (s.slot i) := by
  simp only [bind_eq_ok_iff, need_eq_ok_iff]
  constructor
  · rintro ⟨id, hid, records, hrecords, h⟩ i
    cases h
    cases i with
    | id => exact hid
    | records => exact hrecords
  · intro h
    exact ⟨_, h .id, _, h .records, rfl⟩

/-- When a numbered sentence is read. -/
theorem Sentence.read_eq_ok_iff (h : node.Sound depth) {s : Sentence} :
    Sentence.read node = .ok s ↔ IsSentence node s := by
  rw [Sentence.read,
    readRecord_eq_ok_iff sentenceShape_distinct (fun _ => rfl) (fun f => Sentence.build_eq_ok_iff f s) h]
  have hrecords : ∀ {members : List (String × Node)}, (Node.ofMembers members).Sound depth →
      (HasOne members "tokens" (fun n => readList Record.read n = .ok s.records) ↔
        HasOne members "tokens" (IsList IsRecord · s.records)) := by
    intro members hs
    obtain ⟨-, members', depth', hmembers, rfl, -⟩ := hs.object
    exact hasOne_congr fun m hm => readRecords_eq_ok_iff (hs.member m hm)
  constructor
  · rintro (⟨members, rfl, hall⟩ | ⟨items, rfl, hall⟩)
    · exact .object ⟨hasOne_isCount.1 (hall .id), (hrecords h).1 (hall .records)⟩
    · obtain _ | ⟨hid, _ | ⟨hrs, ⟨⟩⟩⟩ := (show List.Forall₂ _ [SentenceField.id, SentenceField.records] items from hall)
      exact .list (readCount_eq_ok_iff.1 hid) ((readRecords_eq_ok_iff (h.item _ (by simp))).1 hrs)
  · rintro (⟨hid, hrs⟩ | ⟨hid, hrs⟩)
    · refine .inl ⟨_, rfl, fun i => ?_⟩
      cases i with
      | id => exact hasOne_isCount.2 hid
      | records => exact (hrecords h).2 hrs
    · refine .inr ⟨_, rfl, .cons (readCount_eq_ok_iff.2 hid) (.cons ?_ .nil)⟩
      exact (readRecords_eq_ok_iff (h.item _ (by simp))).2 hrs

end Records

/-! ### Bodies -/

section Bodies

variable {members : List (String × Node)} {depth : Nat}

theorem soleMember?_eq_some_iff {α : Type} {name : String} {read : Node → Reading α} {a : α} :
    soleMember? name read members = some a ↔ HasOne members name fun node => read node = .ok a := by
  constructor
  · intro h
    rw [soleMember?.eq_def] at h
    split at h
    · rename_i name' node hfilter
      have hname : (name', node) ∈ members.filter (·.1 == name) := by
        rw [hfilter]
        exact List.mem_singleton_self _
      obtain rfl : name' = name := by simpa using (List.mem_filter.1 hname).2
      exact ⟨node, hfilter, eq_ok_of_toOption h⟩
    · cases h
  · rintro ⟨node, hfilter, hread⟩
    rw [soleMember?.eq_def, hfilter]
    exact congrArg Except.toOption hread

/-- The sentences that sound members hold. -/
theorem Body.ofMembers?_eq_some_iff (h : ∀ m ∈ members, m.2.Sound depth) {b : Body} :
    Body.ofMembers? members = some b ↔ IsBody members b := by
  have hgrouped : ∀ ss, soleMember? "sentences" (readList Sentence.read) members = some ss ↔
      HasOne members "sentences" (IsList IsSentence · ss) := fun ss =>
    soleMember?_eq_some_iff.trans (hasOne_congr fun m hm =>
      readList_eq_ok_iff_isList (fun _ _ hnode => Sentence.read_eq_ok_iff hnode) (h m hm))
  have hflat : ∀ ss, soleMember? "tokens" (readList (readList Record.read)) members = some ss ↔
      HasOne members "tokens" (IsList (IsList IsRecord) · ss) := fun ss =>
    soleMember?_eq_some_iff.trans (hasOne_congr fun m hm =>
      readList_eq_ok_iff_isList (fun _ _ hnode => readRecords_eq_ok_iff hnode) (h m hm))
  rw [Body.ofMembers?]
  cases hsole : soleMember? "sentences" (readList Sentence.read) members with
  | some ss =>
    have hss := (hgrouped ss).1 hsole
    constructor
    · rintro ⟨⟩
      exact .grouped hss
    · rintro (hss' | ⟨hno, -⟩)
      · rw [(hgrouped _).2 hss', Option.some_inj] at hsole
        rw [hsole]
      · exact absurd hss (hno ss)
  | none =>
    have hno : ∀ ss, ¬HasOne members "sentences" (IsList IsSentence · ss) := by
      intro ss hss
      rw [(hgrouped ss).2 hss] at hsole
      cases hsole
    constructor
    · intro hb
      obtain ⟨ss, hss, rfl⟩ := Option.map_eq_some_iff.1 hb
      exact .flat hno ((hflat ss).1 hss)
    · rintro (hss | ⟨-, hss⟩)
      · exact absurd hss (hno _)
      · exact Option.map_eq_some_iff.2 ⟨_, (hflat _).2 hss, rfl⟩

end Bodies

/-! ### Documents -/

namespace Document

variable {members : List (String × Node)}

/-- Behind the labels, members are read whole as long as none is called `labels` again. -/
theorem readMembers_some_eq_ok_iff (h : ∀ m ∈ members, m.2.readFault? 1 = none) {labels : List String}
    {l : Option (List String)} {others : List (String × Node)} :
    Document.readMembers (some labels) (withNames members) = .ok (l, others) ↔
      members.filter (·.1 == "labels") = [] ∧ l = some labels ∧ others = members := by
  induction members generalizing others with
  | nil =>
    change Except.ok (some labels, []) = Except.ok (l, others) ↔ _
    simp [eq_comm]
  | cons m rest ih =>
    obtain ⟨name, node⟩ := m
    obtain ⟨hnode, hrest⟩ := List.forall_mem_cons.1 h
    change Document.readMembers (some labels) ((some name, node) :: withNames rest) = _ ↔ _
    rw [Document.readMembers]
    by_cases hname : name = "labels"
    · rw [if_pos hname, List.filter_cons_of_pos (by simpa using hname)]
      refine iff_of_false (by rintro ⟨⟩) ?_
      rintro ⟨⟨⟩, -⟩
    · rw [if_neg hname, List.filter_cons_of_neg (by simpa using hname)]
      simp only [hnode, bind_eq_ok_iff]
      constructor
      · rintro ⟨⟨l', others'⟩, hread, hpair⟩
        cases hpair
        obtain ⟨hfilter, hl, hothers⟩ := (ih hrest).1 hread
        exact ⟨hfilter, hl, by rw [hothers]⟩
      · rintro ⟨hfilter, hl, hothers⟩
        exact ⟨(l, rest), (ih hrest).2 ⟨hfilter, hl, rfl⟩, by rw [hothers]; rfl⟩

theorem filter_ne_eq_self {name : String} (h : members.filter (·.1 == name) = []) :
    members.filter (·.1 != name) = members := by
  refine List.filter_eq_self.2 fun m hm => ?_
  simpa using List.filter_eq_nil_iff.1 h m hm

/-- The labels come from the only member with that name, and the other members are kept. -/
theorem readMembers_none_eq_ok_iff (h : ∀ m ∈ members, m.2.readFault? 1 = none) {labels : List String}
    {others : List (String × Node)} :
    Document.readMembers none (withNames members) = .ok (some labels, others) ↔
      HasOne members "labels" (fun node => readList readText node = .ok labels) ∧
        others = members.filter (·.1 != "labels") := by
  induction members generalizing others with
  | nil =>
    refine iff_of_false (by rintro ⟨⟩) ?_
    rintro ⟨⟨node, ⟨⟩, -⟩, -⟩
  | cons m rest ih =>
    obtain ⟨name, node⟩ := m
    obtain ⟨hnode, hrest⟩ := List.forall_mem_cons.1 h
    change Document.readMembers none ((some name, node) :: withNames rest) = _ ↔ _
    rw [Document.readMembers]
    by_cases hname : name = "labels"
    · subst hname
      rw [if_pos rfl, HasOne, List.filter_cons_of_pos (by simp), List.filter_cons_of_neg (by simp)]
      simp only [Option.isSome_none, Bool.false_eq_true, if_false, bind_eq_ok_iff, readMembers_some_eq_ok_iff hrest,
        List.cons.injEq, Prod.mk.injEq, true_and]
      constructor
      · rintro ⟨ls, hread, hfilter, hls, rfl⟩
        cases hls
        exact ⟨⟨node, ⟨rfl, hfilter⟩, hread⟩, (filter_ne_eq_self hfilter).symm⟩
      · rintro ⟨⟨node', ⟨rfl, hfilter⟩, hread⟩, hothers⟩
        exact ⟨labels, hread, hfilter, rfl, hothers.trans (filter_ne_eq_self hfilter)⟩
    · rw [if_neg hname, HasOne, List.filter_cons_of_neg (by simpa using hname),
        List.filter_cons_of_pos (by simpa using hname)]
      simp only [hnode, bind_eq_ok_iff]
      constructor
      · rintro ⟨⟨l', others'⟩, hread, hpair⟩
        cases hpair
        obtain ⟨hlabels, rfl⟩ := (ih hrest).1 hread
        exact ⟨hlabels, rfl⟩
      · rintro ⟨hlabels, rfl⟩
        exact ⟨(some labels, _), (ih hrest).2 ⟨hlabels, rfl⟩, rfl⟩

theorem soleMember?_filter_ne {α : Type} {name other : String} (hne : name ≠ other) (read : Node → Reading α) :
    soleMember? name read (members.filter (·.1 != other)) = soleMember? name read members := by
  have hfilter : (members.filter (·.1 != other)).filter (·.1 == name) = members.filter (·.1 == name) := by
    rw [List.filter_filter]
    refine List.filter_congr fun m _ => ?_
    by_cases hm : m.1 = name
    · simp [hm, hne]
    · simp [hm]
  rw [soleMember?.eq_def, soleMember?.eq_def, hfilter]

/-- The member with the labels has no part in the sentences. -/
theorem ofMembers?_filter_labels : Body.ofMembers? (members.filter (·.1 != "labels")) = Body.ofMembers? members := by
  rw [Body.ofMembers?, Body.ofMembers?, soleMember?_filter_ne (by decide), soleMember?_filter_ne (by decide)]

/-- When an object is read as a document. -/
theorem read_eq_ok_iff (h : (Node.ofMembers members).Sound depthLimit) {doc : Document} :
    Document.read (.ofMembers members) = .ok doc ↔
      HasOne members "labels" (IsList IsText · doc.labels) ∧ IsBody members doc.body := by
  have hread : ∀ m ∈ members, m.2.readFault? 1 = none := by
    exact fun m hm => (h.member m hm).readFault?_eq_none (Nat.le_refl _)
  have hlabels : ∀ labels, HasOne members "labels" (fun node => readList readText node = .ok labels) ↔
      HasOne members "labels" (IsList IsText · labels) := fun labels =>
    hasOne_congr fun m hm => readTexts_eq_ok_iff (h.member m hm)
  have hbody : ∀ b, Body.ofMembers? (members.filter (·.1 != "labels")) = some b ↔ IsBody members b := by
    intro b
    rw [ofMembers?_filter_labels, Body.ofMembers?_eq_some_iff h.member]
  rw [ofMembers_eq, Document.read]
  simp only [bind_eq_ok_iff, readEnd_eq_ok_iff, exists_const, true_and]
  constructor
  · rintro ⟨⟨_ | labels, others⟩, hmembers, hdoc⟩
    · cases hdoc
    · obtain ⟨hl, rfl⟩ := (readMembers_none_eq_ok_iff hread).1 hmembers
      simp only at hdoc
      split at hdoc
      · rename_i body hb
        cases hdoc
        exact ⟨(hlabels labels).1 hl, (hbody body).1 hb⟩
      · cases hdoc
  · rintro ⟨hl, hb⟩
    refine ⟨(some doc.labels, _), (readMembers_none_eq_ok_iff hread).2 ⟨(hlabels _).2 hl, rfl⟩, ?_⟩
    simp only [(hbody _).2 hb]
    rfl

/-- **Reading decides the schema of a document.** It is grouped with the contents of `sentences` or else flat with the
contents of `tokens`, and what is not asked for has no influence: neither the order of the members, nor the other
members. A value that is asked for as a count is one exactly when it is written with digits alone, of which only a
single zero starts with a zero, and when what they denote has 64 bits. -/
theorem ofText_eq_ok_iff {text : String} (htext : SaysText text (.ofMembers members))
    (h : (Node.ofMembers members).Sound depthLimit) :
    ((∃ doc, Document.ofText text = .ok doc) ↔
      (∃ labels, HasOne members "labels" (IsList IsText · labels)) ∧
        ((∃ ss, HasOne members "sentences" (IsList IsSentence · ss)) ∨
          ∃ ss, HasOne members "tokens" (IsList (IsList IsRecord) · ss))) ∧
    (∀ doc, Document.ofText text = .ok doc ↔
      HasOne members "labels" (IsList IsText · doc.labels) ∧ IsBody members doc.body) ∧
    ∀ cs node n, Says cs node →
      (IsCount node n ↔ WholeDigits cs ∧ Nat.ofDigitChars 10 cs 0 = n ∧ n < countLimit) := by
  have hiff : ∀ doc, Document.ofText text = .ok doc ↔
      HasOne members "labels" (IsList IsText · doc.labels) ∧ IsBody members doc.body := by
    intro doc
    rw [← read_eq_ok_iff h, Document.ofText, readWhole, htext.ofText_eq]
    simp only [bind_eq_ok_iff, pure, Except.pure, Except.ok.injEq, exists_eq_right]
  refine ⟨?_, hiff, fun cs node n => isCount_iff_digits⟩
  simp only [hiff]
  constructor
  · rintro ⟨doc, hlabels, hbody⟩
    exact ⟨⟨_, hlabels⟩, hbody.exists_member⟩
  · rintro ⟨⟨labels, hlabels⟩, hbody⟩
    obtain ⟨b, hb⟩ := exists_isBody hbody
    exact ⟨⟨labels, b⟩, hlabels, hb⟩

/-- A record as a list of its fields. -/
def oddRecord : Node :=
  .ofList [.ofNat 0, .ofString "X", .ofString "X", .ofString "root", .ofNat 0, .ofString "Sí", .ofNat 0,
    .ofNat 18446744073709551615, .ofString "sí"]

/-- An object whose `sentences` are none, so that `tokens` decide, with a member that is not asked for. -/
def oddMembers : List (String × Node) :=
  [("sentences", .ofList [.ofNat 3]), ("tokens", .ofList [.ofList [oddRecord]]),
    ("note", .ofMembers [("tokens", .ofNat 3)]), ("labels", .ofList [.ofString "a"])]

def oddText : String :=
  "\x7b\"sentences\":[3],\"tokens\":[[[0,\"X\",\"X\",\"root\",0,\"Sí\",0,18446744073709551615,\"sí\"]]]," ++
    "\"note\":\x7b\"tokens\":3\x7d,\"labels\":[\"a\"]\x7d"

/-- The document that it is. -/
def oddDocument : Document where
  labels := ["a"]
  body := .flat [[{
    id := 0, pos := "X", tag := "X", dep := "root", head := 0, text := "Sí", idx := 0, index := 18446744073709551615
    lemmaForm := "sí" }]]

theorem oddRecord_complete : oddRecord.Complete := by
  have h0 : (Node.ofNat 0).Complete := ofNat_complete (by decide)
  have hmax : (Node.ofNat 18446744073709551615).Complete := ofNat_complete (by decide)
  refine .ofList ?_
  simp only [List.forall_mem_cons, List.not_mem_nil, false_implies, implies_true, and_true, ofString_complete, h0, hmax]

theorem oddMembers_complete : (Node.ofMembers oddMembers).Complete := by
  have h3 : (Node.ofNat 3).Complete := ofNat_complete (by decide)
  refine .ofMembers ?_
  simp only [oddMembers, List.forall_mem_cons, List.not_mem_nil, false_implies, implies_true, and_true]
  refine ⟨.ofList ?_, .ofList ?_, .ofMembers ?_, .ofList ?_⟩ <;> rw [List.forall_mem_singleton]
  · exact h3
  · exact .ofList (List.forall_mem_singleton.2 oddRecord_complete)
  · exact h3
  · exact ofString_complete "a"

theorem oddMembers_sound : (Node.ofMembers oddMembers).Sound depthLimit := by
  have hrecord : oddRecord.Sound 1 := by
    refine .ofList ?_
    simp only [List.forall_mem_cons, List.not_mem_nil, false_implies, implies_true, and_true, ofString_sound,
      ofNat_sound]
  have h : (Node.ofMembers oddMembers).Sound 4 := by
    refine .ofMembers ?_
    simp only [oddMembers, List.forall_mem_cons, List.not_mem_nil, false_implies, implies_true, and_true]
    refine ⟨.ofList ?_, .ofList ?_, .ofMembers ?_, .ofList ?_⟩ <;> rw [List.forall_mem_singleton]
    · exact ofNat_sound _ 3
    · exact .ofList (List.forall_mem_singleton.2 hrecord)
    · exact ofNat_sound _ 3
    · exact ofString_sound _ "a"
  exact h.mono (by decide)

theorem ofText_oddText :
    SaysText oddText (.ofMembers oddMembers) ∧ (Node.ofMembers oddMembers).Sound depthLimit ∧
      Document.ofText oddText = .ok oddDocument ∧ IsBody oddMembers oddDocument.body := by
  have htext : SaysText oddText (.ofMembers oddMembers) :=
    oddMembers_complete.saysText .compact blanks_nil (by decide +kernel)
  have hread : Document.ofText oddText = .ok oddDocument := eq_ok_of_toOption (by decide +kernel)
  exact ⟨htext, oddMembers_sound, hread, (((ofText_eq_ok_iff htext oddMembers_sound).2.1 oddDocument).1 hread).2⟩

end Document

end WordRecords
