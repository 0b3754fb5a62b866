import WordRecords.Proofs.Steps
import WordRecords.Spacy.Sentence

/-!
# How tokens fall into sentences

The reader goes through spans and tokens in one pass. `groupsOf` says the same span by span: the sentence of a span
takes the tokens in front that start before its end, and leaves the others to the spans behind it.
`readSentences_eq_ok_iff` states that the reader succeeds exactly when no token is left over and every token makes a
unit, and that its sentences are then the units of the groups.

Where tokens are in order of their offsets and spans follow one another, a token is in the group of the span that holds
it (`mem_groupsOf_iff`). Where tokens are numbered in a row, so are those of every group (`ids_of_mem_groupsOf`).
-/

namespace WordRecords.Spacy

/-! ### Units of tokens -/

theorem need_eq_ok_iff {α : Type} {text field : String} {value? : Option α} {value : α} :
    need text field value? = .ok value ↔ value? = some value := by
  unfold need
  split
  · rw [Except.ok.injEq, Option.some.injEq]
  · constructor <;> intro h <;> cases h

theorem textBy_eq_ok_iff {cut : Cut} {t : Token} {text : String} :
    t.textBy cut = .ok text ↔ cut t.start t.stop = some text := by
  unfold Token.textBy
  split
  · rename_i h
    rw [h, Except.ok.injEq, Option.some.injEq]
  · rename_i h
    rw [h]
    constructor <;> intro h <;> cases h

/-- The unit of a token with a complete analysis. -/
theorem toUnit_eq_ok_iff {t : Token} {text : String} {start : Nat} {unit : SurfaceUnit} :
    t.toUnit text start = .ok unit ↔ ∃ head pos dep lemmaForm, t.head = some head ∧ t.pos = some pos ∧
      t.dep = some dep ∧ t.lemmaForm = some lemmaForm ∧
      unit = ⟨text, ⟨some t.start, none⟩, .lemmaSeparated
        ⟨t.id, pos, t.morph.filter fun features => features ≠ "", dep, .absolute head start, lemmaForm⟩⟩ := by
  simp only [Token.toUnit, bind_eq_ok_iff, need_eq_ok_iff]
  constructor
  · rintro ⟨head, hh, pos, hp, dep, hd, lemmaForm, hl, h⟩
    cases h
    exact ⟨head, pos, dep, lemmaForm, hh, hp, hd, hl, rfl⟩
  · rintro ⟨head, pos, dep, lemmaForm, hh, hp, hd, hl, rfl⟩
    exact ⟨head, hh, pos, hp, dep, hd, lemmaForm, hl, rfl⟩

/-- The unit is that of the token, in a sentence that begins with a given token. -/
def MakesUnit (cut : Cut) (start : Nat) (t : Token) (unit : SurfaceUnit) : Prop :=
  ∃ text, cut t.start t.stop = some text ∧ t.toUnit text start = .ok unit

theorem push_eq_ok_iff {cut : Cut} {g g' : Group} {t : Token} :
    g.push cut t = .ok g' ↔
      ∃ unit, MakesUnit cut (g.start.getD t.id) t unit ∧ g' = ⟨g.units ++ [unit], some (g.start.getD t.id)⟩ := by
  simp only [Group.push, bind_eq_ok_iff, textBy_eq_ok_iff]
  constructor
  · rintro ⟨text, ht, unit, hu, h⟩
    cases h
    exact ⟨unit, ⟨text, ht, hu⟩, rfl⟩
  · rintro ⟨unit, ⟨text, ht, hu⟩, rfl⟩
    exact ⟨text, ht, unit, hu, rfl⟩

/-! ### Filling one sentence -/

/-- The number of the first token of a sentence. -/
def firstId (ts : List Token) : Nat := (ts.head?.map Token.id).getD 0

/-- The units are those of the tokens of a sentence. -/
def GroupUnits (cut : Cut) (ts : List Token) (units : UnitSentence) : Prop :=
  List.Forall₂ (MakesUnit cut (firstId ts)) ts units

/-- In a sentence with a first token, every token adds its unit. -/
theorem foldlM_push_of_start {cut : Cut} {start : Nat} {ts : List Token} {units : UnitSentence} {g' : Group} :
    ts.foldlM (Group.push cut) ⟨units, some start⟩ = .ok g' ↔
      ∃ us, List.Forall₂ (MakesUnit cut start) ts us ∧ g' = ⟨units ++ us, some start⟩ := by
  induction ts generalizing units with
  | nil =>
    rw [List.foldlM_nil]
    constructor
    · intro h
      cases h
      exact ⟨[], .nil, by rw [List.append_nil]⟩
    · rintro ⟨us, ⟨⟩, rfl⟩
      rw [List.append_nil]
      rfl
  | cons t ts ih =>
    rw [List.foldlM_cons, bind_eq_ok_iff]
    constructor
    · rintro ⟨g, hg, h⟩
      obtain ⟨unit, hu, rfl⟩ := push_eq_ok_iff.1 hg
      obtain ⟨us, hus, rfl⟩ := ih.1 h
      exact ⟨unit :: us, .cons hu hus, by rw [List.append_assoc, List.singleton_append]⟩
    · rintro ⟨_, hus, rfl⟩
      cases hus with
      | cons hu hus =>
        refine ⟨_, push_eq_ok_iff.2 ⟨_, hu, rfl⟩, ih.2 ⟨_, hus, ?_⟩⟩
        rw [List.append_assoc, List.singleton_append]

/-- Filling a sentence with tokens gives their units. -/
theorem foldlM_push_empty {cut : Cut} {ts : List Token} {units : UnitSentence} :
    (∃ g', ts.foldlM (Group.push cut) .empty = .ok g' ∧ g'.units = units) ↔ GroupUnits cut ts units := by
  cases ts with
  | nil =>
    rw [List.foldlM_nil, GroupUnits, List.forall₂_nil_left_iff]
    constructor
    · rintro ⟨_, ⟨⟩, rfl⟩
      rfl
    · rintro rfl
      exact ⟨_, rfl, rfl⟩
  | cons t ts =>
    simp only [List.foldlM_cons, bind_eq_ok_iff]
    constructor
    · rintro ⟨g', ⟨g, hg, h⟩, rfl⟩
      obtain ⟨unit, hu, rfl⟩ := push_eq_ok_iff.1 hg
      obtain ⟨us, hus, rfl⟩ := foldlM_push_of_start.1 h
      exact .cons hu hus
    · intro h
      cases h with
      | cons hu hus => exact ⟨_, ⟨_, push_eq_ok_iff.2 ⟨_, hu, rfl⟩, foldlM_push_of_start.2 ⟨_, hus, rfl⟩⟩, rfl⟩

/-! ### Groups -/

/-- The span ends behind the start of the token. -/
def Span.reaches (span : Span) (t : Token) : Bool := decide (t.start < span.stop)

/-- The tokens of every span: as many from the front as it reaches. -/
def groupsOf : List Span → List Token → List (List Token)
  | [], _ => []
  | span :: later, tokens => tokens.takeWhile span.reaches :: groupsOf later (tokens.dropWhile span.reaches)

/-- The tokens that no span takes. -/
def unplaced : List Span → List Token → List Token
  | [], tokens => tokens
  | span :: later, tokens => unplaced later (tokens.dropWhile span.reaches)

theorem flatten_groupsOf (spans : List Span) (tokens : List Token) :
    (groupsOf spans tokens).flatten ++ unplaced spans tokens = tokens := by
  induction spans generalizing tokens with
  | nil => rfl
  | cons span later ih =>
    rw [groupsOf, unplaced, List.flatten_cons, List.append_assoc, ih]
    exact List.takeWhile_append_dropWhile

theorem mem_of_mem_groupsOf {spans : List Span} {tokens ts : List Token} {t : Token} (hts : ts ∈ groupsOf spans tokens)
    (ht : t ∈ ts) : t ∈ tokens := by
  rw [← flatten_groupsOf spans tokens]
  exact List.mem_append_left _ (List.mem_flatten.2 ⟨ts, hts, ht⟩)

theorem length_groupsOf (spans : List Span) (tokens : List Token) : (groupsOf spans tokens).length = spans.length := by
  induction spans generalizing tokens with
  | nil => rfl
  | cons span later ih => rw [groupsOf, List.length_cons, List.length_cons, ih]

theorem takeWhile_append_of_forall {p : Token → Bool} {ts rest : List Token} (hts : ∀ t ∈ ts, p t = true)
    (hrest : ∀ t ∈ rest, p t = false) : (ts ++ rest).takeWhile p = ts ∧ (ts ++ rest).dropWhile p = rest := by
  rw [List.takeWhile_append_of_pos hts, List.dropWhile_append_of_pos hts]
  cases rest with
  | nil => simp
  | cons t rest =>
    have ht : ¬p t = true := by simp [hrest t List.mem_cons_self]
    rw [List.takeWhile_cons_of_neg ht, List.dropWhile_cons_of_neg ht, List.append_nil]
    exact ⟨rfl, rfl⟩

theorem groupTokens_nil {cut : Cut} (spans : List Span) :
    groupTokens cut spans .empty [] = .ok (spans.map fun _ => []) := by
  cases spans with
  | nil => rw [groupTokens]; rfl
  | cons span later => rw [groupTokens]; rfl

/-- The first span is filled with the tokens that it reaches, and the spans behind it with the others. -/
theorem groupTokens_cons {cut : Cut} {span : Span} {later : List Span} {g : Group} {tokens : List Token} :
    groupTokens cut (span :: later) g tokens =
      ((tokens.takeWhile span.reaches).foldlM (Group.push cut) g >>= fun g' =>
        (groupTokens cut later .empty (tokens.dropWhile span.reaches)).map fun rest => g'.units :: rest) := by
  induction tokens generalizing g with
  | nil =>
    rw [groupTokens, List.takeWhile_nil, List.dropWhile_nil, List.foldlM_nil, groupTokens_nil]
    rfl
  | cons t tokens ih =>
    rw [groupTokens]
    by_cases hstop : span.stop ≤ t.start
    · -- the span is left behind, and the token is looked at again
      have hr : ¬span.reaches t = true := by simpa [Span.reaches] using hstop
      rw [if_pos hstop, List.takeWhile_cons_of_neg hr, List.dropWhile_cons_of_neg hr, List.foldlM_nil]
      cases groupTokens cut later .empty (t :: tokens) with
      | error _ => rfl
      | ok _ => rfl
    · have hr : span.reaches t = true := by simpa [Span.reaches] using hstop
      rw [if_neg hstop, List.takeWhile_cons_of_pos hr, List.dropWhile_cons_of_pos hr, List.foldlM_cons]
      cases g.push cut t with
      | error _ => rfl
      | ok _ => exact ih

theorem groupTokens_cons_eq_ok_iff {cut : Cut} {span : Span} {later : List Span} {g : Group} {tokens : List Token}
    {sentences : List UnitSentence} :
    groupTokens cut (span :: later) g tokens = .ok sentences ↔
      ∃ g' rest, (tokens.takeWhile span.reaches).foldlM (Group.push cut) g = .ok g' ∧
        groupTokens cut later .empty (tokens.dropWhile span.reaches) = .ok rest ∧ sentences = g'.units :: rest := by
  rw [groupTokens_cons, bind_eq_ok_iff]
  refine exists_congr fun g' => ?_
  rw [map_eq_ok_iff]
  exact exists_and_left.symm

/-- **One pass finds the groups**: it succeeds when no token is left over and every token makes a unit. -/
theorem groupTokens_eq_ok_iff {cut : Cut} {spans : List Span} {tokens : List Token} {sentences : List UnitSentence} :
    groupTokens cut spans .empty tokens = .ok sentences ↔
      unplaced spans tokens = [] ∧ List.Forall₂ (GroupUnits cut) (groupsOf spans tokens) sentences := by
  induction spans generalizing tokens sentences with
  | nil =>
    rw [unplaced, groupsOf, List.forall₂_nil_left_iff]
    cases tokens with
    | nil =>
      rw [groupTokens_nil, List.map_nil, Except.ok.injEq, eq_comm]
      exact (and_iff_right rfl).symm
    | cons t tokens =>
      rw [groupTokens]
      exact iff_of_false (by rintro ⟨⟩) fun h => List.cons_ne_nil _ _ h.1
  | cons span later ih =>
    rw [groupTokens_cons_eq_ok_iff, unplaced, groupsOf, List.forall₂_cons_left_iff]
    constructor
    · rintro ⟨g', rest, hfill, hrest, rfl⟩
      obtain ⟨hun, hgroups⟩ := ih.1 hrest
      exact ⟨hun, g'.units, rest, foldlM_push_empty.1 ⟨g', hfill, rfl⟩, hgroups, rfl⟩
    · rintro ⟨hun, _, rest, hgroup, hgroups, rfl⟩
      obtain ⟨g', hfill, rfl⟩ := foldlM_push_empty.2 hgroup
      exact ⟨g', rest, hfill, ih.2 ⟨hun, hgroups⟩, rfl⟩

/-- How a document cuts the texts of its tokens. -/
def Doc.cut (d : Doc) : Cut := (Text.CharIndex.ofString d.text).slice? d.text

/-- The tokens of every sentence of a document. -/
def Doc.groups (d : Doc) : List (List Token) := groupsOf d.spans d.tokens

/-- Where no token is left over, the sentences have them all, in order. -/
theorem flatten_groups {d : Doc} (h : unplaced d.spans d.tokens = []) : d.groups.flatten = d.tokens := by
  have hflat := flatten_groupsOf d.spans d.tokens
  rwa [h, List.append_nil] at hflat

theorem readSentences_eq_ok_iff {d : Doc} {sentences : List UnitSentence} :
    readSentences d = .ok sentences ↔
      unplaced d.spans d.tokens = [] ∧ List.Forall₂ (GroupUnits d.cut) d.groups sentences :=
  groupTokens_eq_ok_iff

/-! ### Groups of tokens in order -/

/-- The token starts in the span. -/
def Span.Holds (span : Span) (t : Token) : Prop := span.start ≤ t.start ∧ t.start < span.stop

instance (span : Span) (t : Token) : Decidable (span.Holds t) := inferInstanceAs (Decidable (_ ∧ _))

/-- Tokens in order of their offsets. -/
def InOrder (tokens : List Token) : Prop := tokens.Pairwise fun t u => t.start ≤ u.start

instance (tokens : List Token) : Decidable (InOrder tokens) := inferInstanceAs (Decidable (List.Pairwise _ _))

theorem Span.reaches_of_holds {span : Span} {t : Token} (h : span.Holds t) : span.reaches t = true :=
  decide_eq_true h.2

/-- Tokens in order are reached from the front. -/
theorem takeWhile_reaches {span : Span} {tokens : List Token} (ho : InOrder tokens) :
    tokens.takeWhile span.reaches = tokens.filter span.reaches ∧
      tokens.dropWhile span.reaches = tokens.filter fun t => !span.reaches t := by
  induction tokens with
  | nil => exact ⟨rfl, rfl⟩
  | cons u tokens ih =>
    obtain ⟨hu, ho⟩ := List.pairwise_cons.1 ho
    obtain ⟨htake, hdrop⟩ := ih ho
    by_cases hr : span.reaches u = true
    · rw [List.takeWhile_cons_of_pos hr, List.dropWhile_cons_of_pos hr, List.filter_cons_of_pos hr,
        List.filter_cons_of_neg (by simp [hr]), htake, hdrop]
      exact ⟨rfl, rfl⟩
    · -- nothing behind the first token that is not reached is reached either
      have hout : ∀ t ∈ u :: tokens, span.reaches t = false := by
        have hstop : span.stop ≤ u.start := by simpa [Span.reaches] using hr
        intro t ht
        rcases List.mem_cons.1 ht with rfl | ht
        · exact Bool.eq_false_iff.2 hr
        · exact decide_eq_false (Nat.not_lt.2 (Nat.le_trans hstop (hu t ht)))
      rw [List.takeWhile_cons_of_neg hr, List.dropWhile_cons_of_neg hr]
      constructor
      · exact (List.filter_eq_nil_iff.2 fun t ht => by simp [hout t ht]).symm
      · exact (List.filter_eq_self.2 fun t ht => by simp [hout t ht]).symm

theorem mem_takeWhile_reaches_iff {span : Span} {tokens : List Token} (ho : InOrder tokens) {t : Token} :
    t ∈ tokens.takeWhile span.reaches ↔ t ∈ tokens ∧ span.reaches t = true := by
  rw [(takeWhile_reaches ho).1, List.mem_filter]

theorem mem_dropWhile_reaches_iff {span : Span} {tokens : List Token} (ho : InOrder tokens) {t : Token} :
    t ∈ tokens.dropWhile span.reaches ↔ t ∈ tokens ∧ span.reaches t = false := by
  rw [(takeWhile_reaches ho).2, List.mem_filter, Bool.not_eq_true']

theorem InOrder.dropWhile {tokens : List Token} (ho : InOrder tokens) (p : Token → Bool) :
    InOrder (tokens.dropWhile p) :=
  ho.sublist (List.dropWhile_sublist p)

/-- A token is in the group of the span that holds it, where spans follow one another and one of them holds it. -/
theorem mem_groupsOf_iff {spans : List Span} {tokens ts : List Token} {span : Span} {t : Token} {j : Nat}
    (ho : InOrder tokens) (hd : spans.Pairwise fun s s' => s.stop ≤ s'.start)
    (hts : (groupsOf spans tokens)[j]? = some ts) (hspan : spans[j]? = some span) (hc : ∃ s ∈ spans, s.Holds t)
    (ht : t ∈ tokens) : t ∈ ts ↔ span.Holds t := by
  induction spans generalizing tokens j with
  | nil => simp at hspan
  | cons s later ih =>
    obtain ⟨hs, hd⟩ := List.pairwise_cons.1 hd
    -- a token that a later span holds is out of reach of the first one
    have hfar : ∀ s' ∈ later, s'.Holds t → s.reaches t = false := fun s' hs' h =>
      decide_eq_false (Nat.not_lt.2 (Nat.le_trans (hs s' hs') h.1))
    cases j with
    | zero =>
      obtain rfl : tokens.takeWhile s.reaches = ts := Option.some.inj hts
      obtain rfl : s = span := Option.some.inj hspan
      rw [mem_takeWhile_reaches_iff ho, and_iff_right ht]
      refine ⟨fun hr => ?_, Span.reaches_of_holds⟩
      obtain ⟨s', hs', h⟩ := hc
      rcases List.mem_cons.1 hs' with rfl | hs'
      · exact h
      · rw [hfar s' hs' h] at hr
        cases hr
    | succ j =>
      have hts' : (groupsOf later (tokens.dropWhile s.reaches))[j]? = some ts := hts
      by_cases hr : s.reaches t = true
      · refine iff_of_false (fun h => ?_) fun h => ?_
        · have hmem : t ∈ tokens.dropWhile s.reaches := mem_of_mem_groupsOf (List.mem_of_getElem? hts') h
          rw [((mem_dropWhile_reaches_iff ho).1 hmem).2] at hr
          cases hr
        · rw [hfar span (List.mem_of_getElem? hspan) h] at hr
          cases hr
      · have hr' := Bool.eq_false_iff.2 hr
        refine ih (ho.dropWhile _) hd hts' hspan ?_ ((mem_dropWhile_reaches_iff ho).2 ⟨ht, hr'⟩)
        obtain ⟨s', hs', h⟩ := hc
        rcases List.mem_cons.1 hs' with rfl | hs'
        · exact absurd (Span.reaches_of_holds h) hr
        · exact ⟨s', hs', h⟩

/-! ### Groups of tokens with numbers in a row -/

theorem ids_append {xs ys : List Token} {a : Nat}
    (h : (xs ++ ys).map Token.id = List.range' a (xs ++ ys).length) :
    xs.map Token.id = List.range' a xs.length ∧ ys.map Token.id = List.range' (a + xs.length) ys.length := by
  rw [List.map_append, List.length_append, ← List.range'_append_1] at h
  exact List.append_inj h (by simp)

/-- Where the tokens are numbered in a row, so are those of every group. -/
theorem ids_of_mem_groupsOf {spans : List Span} {tokens ts : List Token} {a : Nat}
    (h : tokens.map Token.id = List.range' a tokens.length) (hts : ts ∈ groupsOf spans tokens) :
    ∃ b, ts.map Token.id = List.range' b ts.length := by
  induction spans generalizing tokens a with
  | nil => cases hts
  | cons span later ih =>
    rw [← List.takeWhile_append_dropWhile (p := span.reaches) (l := tokens)] at h
    obtain ⟨htake, hdrop⟩ := ids_append h
    rcases List.mem_cons.1 hts with rfl | hts
    · exact ⟨a, htake⟩
    · exact ih hdrop hts

theorem firstId_of_ids {ts : List Token} {a : Nat} (h : ts.map Token.id = List.range' a ts.length) (hne : ts ≠ []) :
    firstId ts = a := by
  cases ts with
  | nil => exact absurd rfl hne
  | cons t ts =>
    rw [List.map_cons, List.length_cons, List.range'_succ, List.cons.injEq] at h
    exact h.1

end WordRecords.Spacy
