import WordRecords.Proofs.Assembly.Records
import WordRecords.Proofs.Converter
import WordRecords.Proofs.Spacy.Segmentation

/-!
# Numbers of tokens

The number of a token says nothing but how far it stands from the first token of its sentence. When the numbers of all
tokens of a sentence and those of their governors are raised alike, in every sentence by a number of its own
(`Doc.raise`), the document is converted as before (`convert_raise`).

Every stage is followed. The tokens fall into the same groups, since these depend on offsets alone
(`groups_raise`); a raised token makes the raised unit (`makesUnit_raise_iff`); and units that are raised together have
the same records (`assembleSentences_of_raised`), because the distance to the first token stays as it is.
-/

namespace WordRecords

/-! ### Units with raised numbers -/

/-- The governor with its token, and the first token of its sentence, raised. -/
def HeadRef.raise (k : Nat) : HeadRef → HeadRef
  | .oneBased n => .oneBased n
  | .absolute head sentenceStart => .absolute (head + k) (sentenceStart + k)

/-- The word with its number and that of its governor raised. -/
def Word.raise (k : Nat) (w : Word) : Word := { w with nativeId := w.nativeId + k, head := w.head.raise k }

def Decomposition.raise (k : Nat) : Decomposition → Decomposition
  | .explicit words => .explicit (words.map (Word.raise k))
  | .lemmaSeparated word => .lemmaSeparated (word.raise k)

def SurfaceUnit.raise (k : Nat) (unit : SurfaceUnit) : SurfaceUnit :=
  { unit with decomposition := unit.decomposition.raise k }

def AnchoredWord.raise (k : Nat) (w : AnchoredWord) : AnchoredWord :=
  { w with flat := { w.flat with word := w.flat.word.raise k } }

/-- The distance to the first token stays as it is. -/
theorem HeadRef.rebase_raise (k : Nat) (head : HeadRef) : (head.raise k).rebase = head.rebase := by
  cases head with
  | oneBased n => rfl
  | absolute head sentenceStart => exact Nat.add_sub_add_right head k sentenceStart

theorem SurfaceUnit.flatWords_raise (k : Nat) (unit : SurfaceUnit) :
    (unit.raise k).flatWords = unit.flatWords.map fun flat => { flat with word := flat.word.raise k } := by
  obtain ⟨text, offset, decomposition⟩ := unit
  cases decomposition with
  | explicit words =>
    simp only [raise, Decomposition.raise, flatWords, List.map_map]
    rfl
  | lemmaSeparated word =>
    simp only [raise, Decomposition.raise, flatWords, List.map_map]
    rfl

theorem SurfaceUnit.anchor_raise (k : Nat) (unit : SurfaceUnit) :
    (unit.raise k).anchor = unit.anchor.map (List.map (AnchoredWord.raise k)) := by
  have hoffset : (unit.raise k).offset = unit.offset := rfl
  rw [anchor, anchor, hoffset, flatWords_raise]
  cases unit.offset.resolve? with
  | none => rfl
  | some idx =>
    refine congrArg Except.ok ?_
    rw [List.map_map, List.map_map]
    rfl

theorem anchorSentence_raise (k : Nat) (units : UnitSentence) :
    anchorSentence (units.map (SurfaceUnit.raise k)) =
      (anchorSentence units).map (List.map (AnchoredWord.raise k)) := by
  rw [anchorSentence_eq_map, anchorSentence_eq_map, mapM_map_of_map (SurfaceUnit.anchor_raise k)]
  cases units.mapM SurfaceUnit.anchor with
  | error _ => rfl
  | ok parts => exact congrArg Except.ok List.map_flatten.symm

theorem recordSentence_raise (start k : Nat) (words : List AnchoredWord) :
    recordSentence start (words.map (AnchoredWord.raise k)) = recordSentence start words := by
  refine List.ext_getElem? fun i => ?_
  rw [getElem?_recordSentence, getElem?_recordSentence, List.getElem?_map, Option.map_map]
  refine congrFun (congrArg Option.map (funext fun w => ?_)) _
  simp only [Function.comp_apply, AnchoredWord.raise, FlatWord.toRecord, FlatWord.tag, FlatWord.dep, FlatWord.head,
    FlatWord.lemmaForm, Word.raise, HeadRef.rebase_raise]

/-- The sentences of units are the same, but for numbers that are raised together in every sentence. -/
def Raised (sentences sentences' : List UnitSentence) : Prop :=
  List.Forall₂ (fun units units' => ∃ k, units' = units.map (SurfaceUnit.raise k)) sentences sentences'

/-- Units that are raised together have the same records, or none for the same reason. -/
theorem assembleSentences_of_raised {sentences sentences' : List UnitSentence} (h : Raised sentences sentences') :
    assembleSentences sentences' = assembleSentences sentences := by
  rw [assembleSentences_eq_map, assembleSentences_eq_map]
  suffices hs : ∀ start, (sentences'.mapM anchorSentence).map (recordSentences start) =
      (sentences.mapM anchorSentence).map (recordSentences start) from hs 0
  induction h with
  | nil => exact fun _ => rfl
  | @cons units _ later later' hk _ ih =>
    obtain ⟨k, rfl⟩ := hk
    intro start
    rw [List.mapM_cons, List.mapM_cons, anchorSentence_raise]
    cases anchorSentence units with
    | error _ => rfl
    | ok words =>
      have hlater := ih (start + words.length)
      cases hws : later.mapM anchorSentence with
      | error p =>
        rw [hws] at hlater
        rw [map_eq_error_iff.1 hlater]
        rfl
      | ok ws =>
        rw [hws] at hlater
        obtain ⟨ws', hws', hrec⟩ := map_eq_ok_iff.1 hlater
        rw [hws']
        refine congrArg Except.ok ?_
        show recordSentences start (words.map (AnchoredWord.raise k) :: ws') = recordSentences start (words :: ws)
        rw [recordSentences, recordSentences, recordSentence_raise, List.length_map, hrec]

namespace Spacy

/-! ### Tokens with raised numbers -/

/-- The token with its number and that of its governor raised. -/
def Token.raise (k : Nat) (t : Token) : Token := { t with id := t.id + k, head := t.head.map (· + k) }

theorem makesUnit_raise_iff {cut : Cut} {start k : Nat} {t : Token} {unit' : SurfaceUnit} :
    MakesUnit cut (start + k) (t.raise k) unit' ↔ ∃ unit, MakesUnit cut start t unit ∧ unit' = unit.raise k := by
  simp only [MakesUnit, toUnit_eq_ok_iff]
  constructor
  · rintro ⟨text, hcut, head', pos, dep, lemmaForm, hh, hp, hd, hl, rfl⟩
    obtain ⟨head, hhead, rfl⟩ := Option.map_eq_some_iff.1 hh
    exact ⟨_, ⟨text, hcut, head, pos, dep, lemmaForm, hhead, hp, hd, hl, rfl⟩, rfl⟩
  · rintro ⟨_, ⟨text, hcut, head, pos, dep, lemmaForm, hh, hp, hd, hl, rfl⟩, rfl⟩
    have hh' : (t.raise k).head = some (head + k) := Option.map_eq_some_iff.2 ⟨head, hh, rfl⟩
    exact ⟨text, hcut, head + k, pos, dep, lemmaForm, hh', hp, hd, hl, rfl⟩

/-- The first token of a sentence is raised with it. -/
theorem groupUnits_raise_iff {cut : Cut} {k : Nat} {ts : List Token} {units' : UnitSentence} :
    GroupUnits cut (ts.map (Token.raise k)) units' ↔
      ∃ units, GroupUnits cut ts units ∧ units' = units.map (SurfaceUnit.raise k) := by
  cases ts with
  | nil =>
    simp only [GroupUnits, List.map_nil, List.forall₂_nil_left_iff]
    constructor
    · rintro rfl
      exact ⟨[], rfl, rfl⟩
    · rintro ⟨_, rfl, rfl⟩
      rfl
  | cons t ts =>
    have hfirst : firstId ((t :: ts).map (Token.raise k)) = firstId (t :: ts) + k := rfl
    rw [GroupUnits, hfirst, List.forall₂_map_left_iff]
    simp only [makesUnit_raise_iff, GroupUnits]
    generalize t :: ts = tokens, firstId (t :: ts) = start
    constructor
    · intro h
      induction h with
      | nil => exact ⟨[], .nil, rfl⟩
      | cons hunit _ ih =>
        obtain ⟨unit, hunit, rfl⟩ := hunit
        obtain ⟨units, hunits, rfl⟩ := ih
        exact ⟨unit :: units, .cons hunit hunits, rfl⟩
    · rintro ⟨units, h, rfl⟩
      rw [List.forall₂_map_right_iff]
      exact h.imp fun t unit hunit => ⟨unit, hunit, rfl⟩

/-! ### Groups of raised tokens -/

/-- How many tokens a span takes depends on their offsets. -/
theorem lengths_groupsOf_congr {spans : List Span} {tokens tokens' : List Token}
    (h : tokens'.map Token.start = tokens.map Token.start) :
    (groupsOf spans tokens').map List.length = (groupsOf spans tokens).map List.length := by
  induction spans generalizing tokens tokens' with
  | nil => rfl
  | cons span later ih =>
    have hreaches : span.reaches = (fun start => decide (start < span.stop)) ∘ Token.start := rfl
    have htake : (tokens'.takeWhile span.reaches).map Token.start =
        (tokens.takeWhile span.reaches).map Token.start := by
      rw [hreaches, ← List.takeWhile_map, ← List.takeWhile_map, h]
    have hdrop : (tokens'.dropWhile span.reaches).map Token.start =
        (tokens.dropWhile span.reaches).map Token.start := by
      rw [hreaches, ← List.dropWhile_map, ← List.dropWhile_map, h]
    have hlen := congrArg List.length htake
    rw [List.length_map, List.length_map] at hlen
    rw [groupsOf, groupsOf, List.map_cons, List.map_cons, ih hdrop, hlen]

/-- The groups, each raised by a number of its own. -/
def raiseGroups (k : Nat → Nat) (groups : List (List Token)) : List (List Token) :=
  groups.mapIdx fun i ts => ts.map (Token.raise (k i))

/-- The document with the tokens of every sentence raised, by `k i` in sentence `i`. Tokens that are in no sentence stay
as they are. -/
def Doc.raise (k : Nat → Nat) (d : Doc) : Doc :=
  { d with tokens := (raiseGroups k d.groups).flatten ++ unplaced d.spans d.tokens }

theorem lengths_raiseGroups (k : Nat → Nat) (groups : List (List Token)) :
    (raiseGroups k groups).map List.length = groups.map List.length := by
  refine List.ext_getElem? fun i => ?_
  rw [raiseGroups, List.getElem?_map, List.getElem?_mapIdx, List.getElem?_map, Option.map_map]
  refine congrFun (congrArg Option.map (funext fun ts => ?_)) _
  exact List.length_map _

theorem starts_raiseGroups (k : Nat → Nat) (groups : List (List Token)) :
    (raiseGroups k groups).flatten.map Token.start = groups.flatten.map Token.start := by
  rw [List.map_flatten, List.map_flatten]
  congr 1
  refine List.ext_getElem? fun i => ?_
  rw [raiseGroups, List.getElem?_map, List.getElem?_mapIdx, List.getElem?_map, Option.map_map]
  refine congrFun (congrArg Option.map (funext fun ts => ?_)) _
  exact List.map_map

theorem starts_raise (k : Nat → Nat) (d : Doc) : (d.raise k).tokens.map Token.start = d.tokens.map Token.start := by
  have hflat : d.groups.flatten ++ unplaced d.spans d.tokens = d.tokens := flatten_groupsOf d.spans d.tokens
  calc (d.raise k).tokens.map Token.start
      = (d.groups.flatten ++ unplaced d.spans d.tokens).map Token.start := by
        rw [Doc.raise, List.map_append, starts_raiseGroups, List.map_append]
    _ = d.tokens.map Token.start := by rw [hflat]

theorem spans_raise (k : Nat → Nat) (d : Doc) : (d.raise k).spans = d.spans := by
  have hlen := congrArg List.length (starts_raise k d)
  rw [List.length_map, List.length_map] at hlen
  have hempty : (d.raise k).tokens = [] ↔ d.tokens = [] := by
    rw [← List.length_eq_zero_iff, ← List.length_eq_zero_iff, hlen]
  have hsents : (d.raise k).sents = d.sents := rfl
  simp only [Doc.spans, hsents, hempty, ne_eq]

/-- Raised tokens fall into the raised groups, and those left over are the same. -/
theorem groups_raise (k : Nat → Nat) (d : Doc) :
    (d.raise k).groups = raiseGroups k d.groups ∧
      unplaced (d.raise k).spans (d.raise k).tokens = unplaced d.spans d.tokens := by
  have hlengths : (d.raise k).groups.map List.length = (raiseGroups k d.groups).map List.length := by
    rw [lengths_raiseGroups, Doc.groups, spans_raise]
    exact lengths_groupsOf_congr (starts_raise k d)
  have hflat : (d.raise k).groups.flatten ++ unplaced (d.raise k).spans (d.raise k).tokens =
      (raiseGroups k d.groups).flatten ++ unplaced d.spans d.tokens :=
    flatten_groupsOf (d.raise k).spans (d.raise k).tokens
  have hlen : (d.raise k).groups.flatten.length = (raiseGroups k d.groups).flatten.length := by
    rw [List.length_flatten, List.length_flatten, hlengths]
  obtain ⟨hgroups, hunplaced⟩ := List.append_inj hflat hlen
  exact ⟨List.eq_iff_flatten_eq.2 ⟨hgroups, hlengths⟩, hunplaced⟩

/-! ### Sentences of raised tokens -/

theorem raised_of_groupUnits {cut : Cut} {groups : List (List Token)} {sentences' : List UnitSentence} {k : Nat → Nat} :
    List.Forall₂ (GroupUnits cut) (raiseGroups k groups) sentences' ↔
      ∃ sentences, List.Forall₂ (GroupUnits cut) groups sentences ∧
        sentences' = sentences.mapIdx fun i units => units.map (SurfaceUnit.raise (k i)) := by
  induction groups generalizing sentences' k with
  | nil =>
    rw [raiseGroups, List.mapIdx_nil, List.forall₂_nil_left_iff]
    constructor
    · rintro rfl
      exact ⟨[], .nil, rfl⟩
    · rintro ⟨_, ⟨⟩, rfl⟩
      rfl
  | cons ts groups ih =>
    have hcons : raiseGroups k (ts :: groups) =
        ts.map (Token.raise (k 0)) :: raiseGroups (fun i => k (i + 1)) groups := List.mapIdx_cons
    rw [hcons]
    constructor
    · rintro (_ | ⟨hunits, hlater⟩)
      obtain ⟨units, hts, rfl⟩ := groupUnits_raise_iff.1 hunits
      obtain ⟨later, hgroups, rfl⟩ := ih.1 hlater
      exact ⟨units :: later, .cons hts hgroups, by rw [List.mapIdx_cons]⟩
    · rintro ⟨_, hunits | ⟨hunits, hlater⟩, rfl⟩
      rw [List.mapIdx_cons]
      exact .cons (groupUnits_raise_iff.2 ⟨_, hunits, rfl⟩) (ih.2 ⟨_, hlater, rfl⟩)

theorem readSentences_raise_iff {k : Nat → Nat} {d : Doc} {sentences' : List UnitSentence} :
    readSentences (d.raise k) = .ok sentences' ↔
      ∃ sentences, readSentences d = .ok sentences ∧
        sentences' = sentences.mapIdx fun i units => units.map (SurfaceUnit.raise (k i)) := by
  have hcut : (d.raise k).cut = d.cut := rfl
  simp only [readSentences_eq_ok_iff, (groups_raise k d).1, (groups_raise k d).2, hcut, raised_of_groupUnits]
  constructor
  · rintro ⟨hnil, sentences, hsentences, rfl⟩
    exact ⟨sentences, ⟨hnil, hsentences⟩, rfl⟩
  · rintro ⟨sentences, ⟨hnil, hsentences⟩, rfl⟩
    exact ⟨hnil, sentences, hsentences, rfl⟩

theorem raised_mapIdx (k : Nat → Nat) (sentences : List UnitSentence) :
    Raised sentences (sentences.mapIdx fun i units => units.map (SurfaceUnit.raise (k i))) := by
  refine List.forall₂_iff_get.2 ⟨List.length_mapIdx.symm, fun i _ _ => ⟨k i, ?_⟩⟩
  simp

/-- **Only distances between numbers count.** Where two texts hold the same document but for the numbers of its tokens,
raised together in every sentence, both are converted to the same document, or both are not. As both are read, no number
leaves the counts. -/
theorem convert_raise {c : Converter} (hc : c.pipeline = .spacy) {text text' : String} {d : Doc} {k : Nat → Nat}
    (hd : Doc.ofText text = .ok d) (hd' : Doc.ofText text' = .ok (d.raise k)) (doc : Document) :
    c.convert text = .ok doc ↔ c.convert text' = .ok doc := by
  have hassemble : ∀ sentences, assemble c.schema (c.labelsFor none)
      (sentences.mapIdx fun i units => units.map (SurfaceUnit.raise (k i))) =
        assemble c.schema (c.labelsFor none) sentences := by
    intro sentences
    rw [assemble_eq_map, assemble_eq_map, assembleSentences_of_raised (raised_mapIdx k sentences)]
  simp only [Converter.convert_spacy_eq_ok_iff hc, hd, hd', Except.ok.injEq, exists_and_left, exists_eq_left',
    readSentences_raise_iff]
  constructor
  · rintro ⟨sentences, hs, ha⟩
    exact ⟨_, ⟨sentences, hs, rfl⟩, (hassemble sentences).trans ha⟩
  · rintro ⟨_, ⟨sentences, hs, rfl⟩, ha⟩
    exact ⟨sentences, hs, (hassemble sentences).symm.trans ha⟩

/-- Two sentences, with a governor behind the sentence of its token and one before it. -/
def numberedText : String :=
  "\x7b\"text\":\"Hola mundo ya\",\"sents\":[[0,10],[10,13]],\"tokens\":[[0,0,4,\"INTJ\",null,\"hola\",\"ROOT\",0],
    [1,5,10,\"NOUN\",null,\"mundo cruel\",\"obj\",3],[2,11,13,\"ADV\",null,\"ya\",\"adv\",1]]\x7d"

def numberedDoc : Doc :=
  ⟨"Hola mundo ya", [⟨0, 10⟩, ⟨10, 13⟩],
    [⟨0, 0, 4, some "INTJ", none, some "hola", some "ROOT", some 0⟩,
      ⟨1, 5, 10, some "NOUN", none, some "mundo cruel", some "obj", some 3⟩,
      ⟨2, 11, 13, some "ADV", none, some "ya", some "adv", some 1⟩]⟩

/-- The same, the first sentence up to the greatest count. -/
def raisedText : String :=
  "\x7b\"text\":\"Hola mundo ya\",\"sents\":[[0,10],[10,13]],\"tokens\":[
    [18446744073709551612,0,4,\"INTJ\",null,\"hola\",\"ROOT\",18446744073709551612],
    [18446744073709551613,5,10,\"NOUN\",null,\"mundo cruel\",\"obj\",18446744073709551615],
    [7,11,13,\"ADV\",null,\"ya\",\"adv\",6]]\x7d"

/-- By how much the sentences are raised. -/
def raisedBy (i : Nat) : Nat := if i = 0 then 18446744073709551612 else 5

def numberedDocument : Document :=
  ⟨["spacy-3.7.5"], .flat [
    [⟨0, "INTJ", "INTJ", "root", 0, "Hola", 0, 0, "hola"⟩, ⟨1, "NOUN", "NOUN", "obj", 3, "mundo", 5, 1, "mundo"⟩,
      ⟨2, "NOUN", "NOUN", "obj", 3, "mundo", 5, 2, "cruel"⟩],
    [⟨3, "ADV", "ADV", "adv", 0, "ya", 11, 0, "ya"⟩]]⟩

theorem convert_raisedText :
    Doc.ofText numberedText = .ok numberedDoc ∧ Doc.ofText raisedText = .ok (numberedDoc.raise raisedBy) ∧
      (⟨.spacy, "3.7.5", .flat, [], none⟩ : Converter).convert numberedText = .ok numberedDocument ∧
      (⟨.spacy, "3.7.5", .flat, [], none⟩ : Converter).convert raisedText = .ok numberedDocument := by
  have hd : Doc.ofText numberedText = .ok numberedDoc := eq_ok_of_toOption (by decide +kernel)
  have hd' : Doc.ofText raisedText = .ok (numberedDoc.raise raisedBy) := eq_ok_of_toOption (by decide +kernel)
  have h : (⟨.spacy, "3.7.5", .flat, [], none⟩ : Converter).convert numberedText = .ok numberedDocument :=
    eq_ok_of_toOption (by decide +kernel)
  exact ⟨hd, hd', h, (convert_raise rfl hd hd' numberedDocument).1 h⟩

end Spacy

end WordRecords
