import WordRecords.Proofs.Document.Canonical

/-!
# Checks of documents that differ in one record

A record at fault shows in the violations of a document at one place only. If two documents differ in the contents of
one record at most (`Document.Neighbours`), their violations are the same up to those of that record and the number of
the record behind it, and the same again from there on (`Document.violations_neighbours`).

The number expected of a record is what one pass hands on from record to record. It comes from the record before alone,
so that the pass can be cut at any place (`violationsFrom_append`), and behind the cut only the number of the first
record depends on what stands in front (`violationsFrom_eq`).
-/

namespace WordRecords

/-! ### One pass, cut in two -/

/-- The violation of a record's number. -/
def Place.idViolations (expected : Nat) (p : Place) : List Violation :=
  if p.record.id = expected then [] else [.idGap expected p.record.id]

theorem Place.violations_eq (expected : Nat) (p : Place) :
    p.violations expected = p.idViolations expected ++ p.ownViolations := by
  simp only [violations, idViolations, ownViolations, List.append_assoc]

/-- The number expected behind records, where one is expected of the first. -/
def expectedBehind : Nat → List Place → Nat
  | expected, [] => expected
  | _, p :: later => expectedBehind (nextId p.record.id) later

theorem violationsFrom_append (expected : Nat) (places later : List Place) :
    violationsFrom expected (places ++ later) =
      violationsFrom expected places ++ violationsFrom (expectedBehind expected places) later := by
  induction places generalizing expected with
  | nil => rfl
  | cons p places ih => rw [List.cons_append, violationsFrom, violationsFrom, ih, expectedBehind, List.append_assoc]

/-- The violations of the first record, and that of the number of the second. -/
def leadingViolations (expected : Nat) : List Place → List Violation
  | [] => []
  | p :: later => p.violations expected ++ (later.head?.toList.flatMap (Place.idViolations (nextId p.record.id)))

/-- The violations of records, without that of the number of the first. -/
def laterViolations : List Place → List Violation
  | [] => []
  | p :: later => p.ownViolations ++ violationsFrom (nextId p.record.id) later

theorem violationsFrom_eq (expected : Nat) (places : List Place) :
    violationsFrom expected places = leadingViolations expected places ++ laterViolations places.tail := by
  cases places with
  | nil => rfl
  | cons p later =>
    rw [violationsFrom, leadingViolations, List.tail_cons, List.append_assoc]
    congr 1
    cases later with
    | nil => rfl
    | cons q rest =>
      rw [violationsFrom, Place.violations_eq, List.append_assoc, List.head?_cons, Option.toList_some,
        List.flatMap_singleton, laterViolations]

theorem length_breach_le (rule : Prop) [Decidable rule] (breach : Violation) :
    (if rule then [] else [breach]).length ≤ 1 := by
  split
  · exact Nat.zero_le 1
  · exact Nat.le_refl 1

theorem Place.length_violations_le (expected : Nat) (p : Place) : (p.violations expected).length ≤ 5 := by
  simp only [violations, List.length_append]
  have hid := length_breach_le (p.record.id = expected) (.idGap expected p.record.id)
  have hindex := length_breach_le (p.record.index = p.position) (.index p.record.id p.position p.record.index)
  have hhead := length_breach_le (p.record.head < p.length) (.headOutOfRange p.record.id p.record.head p.length)
  have hlemma := length_breach_le (Text.IsLowerCase p.record.lemmaForm) (.lemmaCase p.record.id p.record.lemmaForm)
  have hdep := length_breach_le (Text.IsLowerCase p.record.dep) (.depCase p.record.id p.record.dep)
  omega

/-- Five rules for the record, and one for the number of the next. -/
theorem length_leadingViolations_le (expected : Nat) (places : List Place) :
    (leadingViolations expected places).length ≤ 6 := by
  cases places with
  | nil => exact Nat.zero_le 6
  | cons p later =>
    have hp := p.length_violations_le expected
    rw [leadingViolations, List.length_append]
    cases later with
    | nil =>
      rw [List.head?_nil, Option.toList_none, List.flatMap_nil, List.length_nil]
      omega
    | cons q rest =>
      have hq : (q.idViolations (nextId p.record.id)).length ≤ 1 := length_breach_le _ _
      rw [List.head?_cons, Option.toList_some, List.flatMap_singleton]
      omega

/-! ### Places -/

/-- The positions in sentences of given lengths, each with the length of its sentence. -/
def positionsOf (lengths : List Nat) : List (Nat × Nat) :=
  lengths.flatMap fun length => (List.range length).map fun position => (position, length)

theorem positionsOf_cons (length : Nat) (lengths : List Nat) :
    positionsOf (length :: lengths) =
      (List.range length).map (fun position => (position, length)) ++ positionsOf lengths :=
  List.flatMap_cons

/-- The record at a position of a sentence. -/
def Record.at (r : Record) (position : Nat × Nat) : Place := ⟨r, position.1, position.2⟩

theorem placesOf_eq_zipWith (s : List Record) :
    placesOf s = List.zipWith Record.at s ((List.range s.length).map fun position => (position, s.length)) := by
  refine List.ext_getElem (by simp [placesOf]) fun i hi hi' => ?_
  simp [placesOf, Record.at]

/-- The records of sentences with their places: what they contain comes from the records, and where they are comes from
the lengths of the sentences. -/
theorem flatMap_placesOf_eq_zipWith (ss : List (List Record)) :
    ss.flatMap placesOf = List.zipWith Record.at ss.flatten (positionsOf (ss.map List.length)) := by
  induction ss with
  | nil => rfl
  | cons s ss ih =>
    have hlen : s.length = ((List.range s.length).map fun position => (position, s.length)).length := by simp
    rw [List.flatMap_cons, ih, placesOf_eq_zipWith, List.flatten_cons, List.map_cons, positionsOf_cons,
      List.zipWith_append hlen]

/-! ### Documents that differ in one record -/

/-- The numbers of the sentences, where these have numbers. -/
def Body.sentenceIds : Body → List Nat
  | .grouped ss => ss.map Sentence.id
  | .flat _ => []

theorem sentenceViolations_congr {body body' : Body} (h : body.sentenceIds = body'.sentenceIds) :
    body.sentenceViolations = body'.sentenceViolations := by
  have hids : ∀ b : Body, b.sentenceViolations = (b.sentenceIds.mapIdx fun position id =>
      if id = position then [] else [Violation.sentenceId position id]).flatten := by
    intro b
    cases b with
    | flat _ => rfl
    | grouped ss =>
      refine congrArg List.flatten (List.ext_getElem? fun i => ?_)
      rw [Body.sentenceIds, List.getElem?_mapIdx, List.getElem?_mapIdx, List.getElem?_map, Option.map_map]
      rfl
  rw [hids, hids, h]

namespace Document

/-- The records of a document with their places. -/
def places (doc : Document) : List Place := doc.sentences.flatMap placesOf

theorem violations_eq (doc : Document) :
    doc.violations = doc.body.sentenceViolations ++ violationsFrom 0 doc.places := rfl

/-- Two documents of one form that differ in the contents of one record at most. -/
structure Neighbours (doc doc' : Document) (i : Nat) : Prop where
  schema : doc.schema = doc'.schema
  sentenceIds : doc.body.sentenceIds = doc'.body.sentenceIds
  /-- Every sentence has as many records in one as in the other. -/
  lengths : doc.sentences.map List.length = doc'.sentences.map List.length
  /-- All records but one are the same. -/
  records : ∀ j, j ≠ i → doc.records[j]? = doc'.records[j]?

variable {doc doc' : Document} {i : Nat}

theorem Neighbours.getElem?_places (h : doc.Neighbours doc' i) {j : Nat} (hj : j ≠ i) :
    doc.places[j]? = doc'.places[j]? := by
  have hrecords : doc.sentences.flatten[j]? = doc'.sentences.flatten[j]? := h.records j hj
  rw [places, places, flatMap_placesOf_eq_zipWith, flatMap_placesOf_eq_zipWith, List.getElem?_zipWith,
    List.getElem?_zipWith, h.lengths, hrecords]

/-- **A record at fault shows once.** The violations of two documents that differ in one record are the same but for
those of this record and of the number of the next, six at most in each. -/
theorem violations_neighbours (h : doc.Neighbours doc' i) :
    ∃ before near near' behind expected,
      doc.violations = before ++ near ++ behind ∧ doc'.violations = before ++ near' ++ behind ∧
        near = leadingViolations expected (doc.places.drop i) ∧
        near' = leadingViolations expected (doc'.places.drop i) ∧ near.length ≤ 6 ∧ near'.length ≤ 6 := by
  have hfront : doc.places.take i = doc'.places.take i := by
    refine List.ext_getElem? fun j => ?_
    rw [List.getElem?_take, List.getElem?_take]
    split
    · exact h.getElem?_places (by omega)
    · rfl
  have hbehind : (doc.places.drop i).tail = (doc'.places.drop i).tail := by
    refine List.ext_getElem? fun j => ?_
    rw [List.tail_drop, List.tail_drop, List.getElem?_drop, List.getElem?_drop]
    exact h.getElem?_places (by omega)
  have hsplit : ∀ d : Document, d.violations = d.body.sentenceViolations ++ violationsFrom 0 (d.places.take i) ++
      leadingViolations (expectedBehind 0 (d.places.take i)) (d.places.drop i) ++
      laterViolations (d.places.drop i).tail := by
    intro d
    rw [violations_eq]
    conv_lhs => rw [← List.take_append_drop i d.places, violationsFrom_append, violationsFrom_eq _ (d.places.drop i)]
    simp only [List.append_assoc]
  refine ⟨_, _, _, _, _, hsplit doc, ?_, rfl, rfl, length_leadingViolations_le _ _, length_leadingViolations_le _ _⟩
  rw [hsplit doc', hfront, hbehind, sentenceViolations_congr h.sentenceIds]

/-- A document with a wrong sentence number, an empty sentence, and a wrong lemma in its last record. -/
def slightlyWrong : Document :=
  ⟨["es"], .grouped [
    ⟨0, [⟨0, "ADP", "ADP", "case", 1, "del", 3, 0, "de"⟩, ⟨1, "DET", "DET", "det", 1, "del", 3, 1, "el"⟩]⟩,
    ⟨7, []⟩,
    ⟨2, [⟨2, "NOUN", "NOUN", "obl", 0, "Sol", 8, 0, "Sol"⟩]⟩]⟩

/-- The same, with every possible fault in the second record. -/
def badlyWrong : Document :=
  ⟨["pt"], .grouped [
    ⟨0, [⟨0, "ADP", "ADP", "case", 1, "del", 3, 0, "de"⟩, ⟨5, "X", "X", "Det", 2, "", 0, 4, "El"⟩]⟩,
    ⟨7, []⟩,
    ⟨2, [⟨2, "NOUN", "NOUN", "obl", 0, "Sol", 8, 0, "Sol"⟩]⟩]⟩

theorem violations_badlyWrong :
    slightlyWrong.Neighbours badlyWrong 1 ∧ slightlyWrong.violations = [.sentenceId 1 7, .lemmaCase 2 "Sol"] ∧
      badlyWrong.violations = [.sentenceId 1 7, .idGap 1 5, .index 5 1 4, .headOutOfRange 5 2 2, .lemmaCase 5 "El",
        .depCase 5 "Det", .idGap 6 2, .lemmaCase 2 "Sol"] ∧
      ∃ before near near' behind expected,
        slightlyWrong.violations = before ++ near ++ behind ∧ badlyWrong.violations = before ++ near' ++ behind ∧
          near = leadingViolations expected (slightlyWrong.places.drop 1) ∧
          near' = leadingViolations expected (badlyWrong.places.drop 1) ∧ near.length ≤ 6 ∧ near'.length ≤ 6 := by
  have h : slightlyWrong.Neighbours badlyWrong 1 := by
    refine ⟨rfl, rfl, rfl, fun j hj => ?_⟩
    rcases j with _ | _ | j
    · rfl
    · exact absurd rfl hj
    · rfl
  exact ⟨h, by decide +kernel, by decide +kernel, violations_neighbours h⟩

end Document

end WordRecords
