import WordRecords.Proofs.Spacy.Segmentation

/-!
# Tokens inside the spans of their sentences

The reader compares the start of a token with the ends of spans only. A token that starts in a gap, or that goes back in
the text, is put into the sentence of the next span that is left, though it does not start in it.
`readSentences_inside_iff` states for which documents every token starts in the span of its sentence, and for which a
token is told to be outside every sentence. The tokens and spans may be in any order.
-/

namespace WordRecords.Spacy

/-! ### The span of a token -/

/-- The first span that ends behind the starts of a token and of all tokens before it. -/
def spanBehind? (spans : List Span) (before : List Token) (t : Token) : Option Span :=
  spans.find? fun s => (before ++ [t]).all s.reaches

theorem reaches_of_spanBehind? {spans : List Span} {before : List Token} {t : Token} {s : Span}
    (h : spanBehind? spans before t = some s) : t.start < s.stop := by
  have hall := List.find?_some h
  rw [List.all_append, Bool.and_eq_true, List.all_eq_true, List.all_eq_true] at hall
  exact of_decide_eq_true (hall.2 t (List.mem_singleton_self t))

/-- Among tokens that the first span reaches, it is the one for each of them. -/
theorem spanBehind?_cons_of_reached {s : Span} {later : List Span} {before after : List Token} {t : Token}
    (h : ∀ u ∈ before ++ t :: after, s.reaches u = true) : spanBehind? (s :: later) before t = some s := by
  refine List.find?_cons_of_pos (List.all_eq_true.2 fun u hu => h u ?_)
  rw [List.append_cons]
  exact List.mem_append_left after hu

/-- Behind the tokens that the first span takes, it is as if neither the span nor these tokens were there. -/
theorem spanBehind?_cons_behind {s : Span} {later : List Span} {front before after : List Token} {t : Token}
    (hfront : ∀ u ∈ front, s.reaches u = true) (hrest : ∀ u ∈ (before ++ t :: after).head?, s.reaches u = false) :
    spanBehind? (s :: later) (front ++ before) t = spanBehind? later before t := by
  -- the token at which the first span is left behind
  obtain ⟨u, hu, hmiss⟩ : ∃ u ∈ before ++ [t], s.reaches u = false := by
    cases before with
    | nil => exact ⟨t, List.mem_singleton_self t, hrest t rfl⟩
    | cons u before => exact ⟨u, List.mem_cons_self, hrest u rfl⟩
  have hskip : ¬((front ++ before ++ [t]).all s.reaches) = true := by
    intro hall
    rw [List.append_assoc, List.all_eq_true] at hall
    rw [hall u (List.mem_append_right front hu)] at hmiss
    cases hmiss
  rw [spanBehind?, List.find?_cons, Bool.eq_false_iff.2 hskip]
  refine congrArg (fun p => later.find? p) (funext fun s' => ?_)
  rw [List.append_assoc, List.all_append, Bool.eq_iff_iff, Bool.and_eq_true]
  refine and_iff_right_of_imp fun hall => List.all_eq_true.2 fun v hv => ?_
  have hv := hfront v hv
  have hu := List.all_eq_true.1 hall u hu
  simp only [Span.reaches, decide_eq_true_eq, decide_eq_false_iff_not] at hmiss hv hu ⊢
  omega

/-- What holds of every token and the span of its group holds of every token and the span found for it. -/
theorem forall_groupsOf_iff {P : Span → Token → Prop} {spans : List Span} {tokens : List Token} :
    List.Forall₂ (fun s ts => ∀ t ∈ ts, P s t) spans (groupsOf spans tokens) ↔
      ∀ before t after, tokens = before ++ t :: after → ∀ s, spanBehind? spans before t = some s → P s t := by
  induction spans generalizing tokens with
  | nil =>
    refine iff_of_true .nil ?_
    rintro before t after - s ⟨⟩
  | cons s later ih =>
    have hfront : ∀ t ∈ tokens.takeWhile s.reaches, s.reaches t = true := fun t ht => List.mem_takeWhile_imp ht
    have hrest := reaches_head_dropWhile s tokens
    rw [groupsOf, List.forall₂_cons, ih]
    conv_rhs => rw [← List.takeWhile_append_dropWhile (p := s.reaches) (l := tokens)]
    generalize tokens.takeWhile s.reaches = front at hfront
    generalize tokens.dropWhile s.reaches = rest at hrest
    rw [forall_split_append]
    refine and_congr ?_ ?_
    · constructor
      · rintro h before t after rfl s' hs'
        rw [spanBehind?_cons_of_reached hfront] at hs'
        cases hs'
        exact h t (by simp)
      · intro h t ht
        obtain ⟨before, after, rfl⟩ := List.append_of_mem ht
        exact h before t after rfl s (spanBehind?_cons_of_reached hfront)
    · refine forall_congr' fun before => forall_congr' fun t => forall_congr' fun after => forall_congr' fun hs => ?_
      rw [spanBehind?_cons_behind hfront (hs ▸ hrest)]

/-! ### Tokens outside every sentence -/

theorem need_ne_outside {α : Type} {text field : String} {value? : Option α} {id start : Nat} :
    need text field value? ≠ .error (.outsideSentences id start) := by
  unfold need
  split <;> rintro ⟨⟩

theorem textBy_ne_outside {cut : Cut} {t : Token} {id start : Nat} :
    t.textBy cut ≠ .error (.outsideSentences id start) := by
  unfold Token.textBy
  split <;> rintro ⟨⟩

theorem toUnit_ne_outside {t : Token} {text : String} {first id start : Nat} :
    t.toUnit text first ≠ .error (.outsideSentences id start) := by
  simp only [Token.toUnit, ne_eq, bind_eq_error_iff, need_ne_outside, false_or]
  rintro ⟨_, -, _, -, _, -, _, -, ⟨⟩⟩

theorem push_ne_outside {cut : Cut} {g : Group} {t : Token} {id start : Nat} :
    g.push cut t ≠ .error (.outsideSentences id start) := by
  simp only [Group.push, ne_eq, bind_eq_error_iff, textBy_ne_outside, toUnit_ne_outside, false_or]
  rintro ⟨_, -, _, -, ⟨⟩⟩

theorem foldlM_push_ne_outside {cut : Cut} {g : Group} {ts : List Token} {id start : Nat} :
    ts.foldlM (Group.push cut) g ≠ .error (.outsideSentences id start) := by
  induction ts generalizing g with
  | nil => rintro ⟨⟩
  | cons t ts ih =>
    rw [List.foldlM_cons, ne_eq, bind_eq_error_iff]
    rintro (h | ⟨g', -, h⟩)
    · exact push_ne_outside h
    · exact ih h

/-- A token is told to be outside every sentence when it is the first one left over, and all that is not left over makes
units. -/
theorem groupTokens_eq_outside_iff {d : Doc} {spans : List Span} {tokens : List Token} {id start : Nat} :
    groupTokens d.cut spans .empty tokens = .error (.outsideSentences id start) ↔
      (∀ t ∈ (groupsOf spans tokens).flatten, d.Admits t) ∧
        ∃ t after, unplaced spans tokens = t :: after ∧ t.id = id ∧ t.start = start := by
  induction spans generalizing tokens with
  | nil =>
    cases tokens with
    | nil => simp [groupTokens, groupsOf, unplaced]
    | cons t tokens => simp [groupTokens, groupsOf, unplaced]
  | cons s later ih =>
    rw [groupTokens_cons, bind_eq_error_iff, or_iff_right foldlM_push_ne_outside, groupsOf, unplaced,
      List.flatten_cons, List.forall_mem_append, and_assoc, ← ih, ← exists_groupUnits_iff]
    constructor
    · rintro ⟨g, hg, h⟩
      exact ⟨⟨_, foldlM_push_empty.1 ⟨g, hg, rfl⟩⟩, map_eq_error_iff.1 h⟩
    · rintro ⟨⟨units, hunits⟩, h⟩
      obtain ⟨g, hg, -⟩ := foldlM_push_empty.2 hunits
      exact ⟨g, hg, map_eq_error_iff.2 h⟩

/-- In front of the first token that no span reaches, all are in groups. -/
theorem exists_unplaced_iff {spans : List Span} {tokens : List Token} {P Q : Token → Prop} :
    ((∀ u ∈ (groupsOf spans tokens).flatten, P u) ∧ ∃ t after, unplaced spans tokens = t :: after ∧ Q t) ↔
      ∃ before t after, tokens = before ++ t :: after ∧ (∀ u ∈ before, P u ∧ ∃ s ∈ spans, u.start < s.stop) ∧
        (∀ s ∈ spans, s.stop ≤ t.start) ∧ Q t := by
  have hflat := flatten_groupsOf spans tokens
  have hmiss : ∀ t, ¬reached spans t = true ↔ ∀ s ∈ spans, s.stop ≤ t.start := by simp [reached_iff]
  constructor
  · rintro ⟨hp, t, after, hleft, hq⟩
    have hnot := List.head?_dropWhile_not (reached spans) tokens
    have htake := List.takeWhile_append_dropWhile (p := reached spans) (l := tokens)
    rw [← unplaced_eq_dropWhile, hleft] at hnot htake
    rw [hleft] at hflat
    have hfront := List.append_cancel_right (hflat.trans htake.symm)
    refine ⟨_, t, after, hflat.symm, fun u hu => ⟨hp u hu, ?_⟩, (hmiss t).1 (by simpa using hnot), hq⟩
    rw [hfront] at hu
    exact reached_iff.1 (List.mem_takeWhile_imp hu)
  · rintro ⟨before, t, after, rfl, hbefore, hbehind, hq⟩
    have hleft : unplaced spans (before ++ t :: after) = t :: after := by
      rw [unplaced_eq_dropWhile, List.dropWhile_append_of_pos fun u hu => reached_iff.2 (hbefore u hu).2,
        List.dropWhile_cons_of_neg ((hmiss t).2 hbehind)]
    rw [hleft] at hflat
    refine ⟨fun u hu => (hbefore u ?_).1, t, after, hleft, hq⟩
    rwa [List.append_cancel_right hflat] at hu

/-! ### Tokens in their spans -/

/-- **The reader knows the ends of spans only.** Every token starts before the end of the span of its sentence, which is
the first span that ends behind the starts of the token and of all before it; it starts inside this span unless the span
starts behind it. A token is told to be outside every sentence when it starts behind all spans. -/
theorem readSentences_inside_iff {d : Doc} (hs : d.sents ≠ []) :
    (∀ sentences, readSentences d = .ok sentences → ∃ groups : List (List Token), groups.flatten = d.tokens ∧
        List.Forall₂ (GroupUnits d.cut) groups sentences ∧
        List.Forall₂ (fun s ts => ∀ t ∈ ts, t.start < s.stop) d.sents groups ∧
        (List.Forall₂ (fun s ts => ∀ t ∈ ts, s.Holds t) d.sents groups ↔
          ∀ before t after, d.tokens = before ++ t :: after →
            ∀ s, spanBehind? d.sents before t = some s → s.start ≤ t.start)) ∧
      ∀ id start, readSentences d = .error (.outsideSentences id start) ↔
        ∃ before t after, d.tokens = before ++ t :: after ∧
          (∀ u ∈ before, d.Admits u ∧ ∃ s ∈ d.sents, u.start < s.stop) ∧
          (∀ s ∈ d.sents, s.stop ≤ t.start) ∧ t.id = id ∧ t.start = start := by
  have hspans : d.spans = d.sents := if_neg fun h => hs h.1
  constructor
  · intro sentences h
    obtain ⟨hnil, hgroups⟩ := readSentences_eq_ok_iff.1 h
    have hflat := flatten_groupsOf d.spans d.tokens
    rw [hnil, List.append_nil] at hflat
    refine ⟨d.groups, hflat, hgroups, ?_, ?_⟩
    · rw [Doc.groups, hspans, forall_groupsOf_iff]
      intro before t after _ s hs
      exact reaches_of_spanBehind? hs
    · rw [Doc.groups, hspans, forall_groupsOf_iff]
      refine forall_congr' fun before => forall_congr' fun t => forall_congr' fun after => forall_congr' fun _ =>
        forall_congr' fun s => forall_congr' fun hs => ?_
      exact and_iff_left (reaches_of_spanBehind? hs)
  · intro id start
    rw [readSentences, hspans]
    exact groupTokens_eq_outside_iff.trans exists_unplaced_iff

theorem readSentences_crowdedDoc_inside :
    crowdedDoc.sents ≠ [] ∧ readSentences crowdedDoc = .ok crowdedUnits ∧ ∃ groups : List (List Token),
      groups.flatten = crowdedDoc.tokens ∧ List.Forall₂ (GroupUnits crowdedDoc.cut) groups crowdedUnits ∧
        List.Forall₂ (fun s ts => ∀ t ∈ ts, s.Holds t) crowdedDoc.sents groups := by
  have hs : crowdedDoc.sents ≠ [] := by decide
  have h : readSentences crowdedDoc = .ok crowdedUnits := eq_ok_of_toOption (by decide +kernel)
  obtain ⟨groups, hflat, hgroups, -, hinside⟩ := (readSentences_inside_iff hs).1 _ h
  refine ⟨hs, h, groups, hflat, hgroups, hinside.2 ?_⟩
  refine forall_split_cons.2 ⟨?_, forall_split_cons.2 ⟨?_, by simp⟩⟩
  · rintro s ⟨⟩
    decide
  · rintro s ⟨⟩
    decide

/-- The first word is left out of the segmentation. -/
def earlyText : String :=
  "\x7b\"text\":\"Hola mundo\",\"sents\":[[5,10]],\"tokens\":[[0,0,4,\"INTJ\",null,\"hola\",\"ROOT\",0],
    [1,5,10,\"NOUN\",null,\"mundo\",\"obj\",0]]\x7d"

def earlyDoc : Doc :=
  ⟨"Hola mundo", [⟨5, 10⟩], [⟨0, 0, 4, some "INTJ", none, some "hola", some "ROOT", some 0⟩,
    ⟨1, 5, 10, some "NOUN", none, some "mundo", some "obj", some 0⟩]⟩

/-- It is read all the same, as the first word of a sentence in whose span it does not start. -/
theorem readSentences_earlyDoc :
    Doc.ofText earlyText = .ok earlyDoc ∧ earlyDoc.sents ≠ [] ∧
      readSentences earlyDoc = .ok [[
        ⟨"Hola", ⟨some 0, none⟩, .lemmaSeparated ⟨0, "INTJ", none, "ROOT", .absolute 0 0, "hola"⟩⟩,
        ⟨"mundo", ⟨some 5, none⟩, .lemmaSeparated ⟨1, "NOUN", none, "obj", .absolute 0 0, "mundo"⟩⟩]] ∧
      ∃ t, earlyDoc.tokens.head? = some t ∧ ∀ s ∈ earlyDoc.sents, ¬s.Holds t :=
  ⟨eq_ok_of_toOption (by decide +kernel), by decide, eq_ok_of_toOption (by decide +kernel), _, rfl, by decide⟩

end WordRecords.Spacy
