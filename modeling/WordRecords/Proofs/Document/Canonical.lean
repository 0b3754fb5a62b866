import WordRecords.Document.Violation
import WordRecords.Proofs.Steps

/-!
# Canonical documents

What the checks of a document ask for, said of the document as a whole.

* `Document.Orderly`: all numbers are in order and all texts are in lower case.
* `Document.Canonical`: besides, every governor lies in its sentence.
* `Orderly.violations_eq`: an orderly document has no violations but those of its governors, one for each governor
  outside its sentence (`Document.headViolations`), so that a canonical one has none.
* `Document.violations_eq_nil_iff`: only canonical documents have none.

The number expected of a record depends on the record before it alone. The inductions over the records therefore run
for any first number, and need that the numbers stay within the counts.
-/

namespace WordRecords

/-- A document in order, its governors aside. -/
structure Document.Orderly (doc : Document) : Prop where
  /-- Numbered sentences are numbered by their positions. -/
  sentenceIds : ∀ ss, doc.body = .grouped ss → ss.map Sentence.id = List.range ss.length
  /-- The records are numbered through the document, from zero. -/
  ids : doc.records.map Record.id = List.range doc.recordCount
  /-- The index of a record is its position in its sentence. -/
  indices : ∀ s ∈ doc.sentences, s.map Record.index = List.range s.length
  /-- Lemmas are in lower case. -/
  lemmas : ∀ r ∈ doc.records, Text.IsLowerCase r.lemmaForm
  /-- Dependency relations are in lower case. -/
  deps : ∀ r ∈ doc.records, Text.IsLowerCase r.dep

/-- Every governor is a position in its sentence. -/
def Document.HeadsInside (doc : Document) : Prop := ∀ s ∈ doc.sentences, ∀ r ∈ s, r.head < s.length

/-- A document that keeps all rules. -/
structure Document.Canonical (doc : Document) : Prop extends doc.Orderly where
  /-- Governors lie in their sentences. -/
  heads : doc.HeadsInside

/-- The violations of the governors of a sentence. -/
def headViolationsOf (s : List Record) : List Violation :=
  s.flatMap fun r => if r.head < s.length then [] else [.headOutOfRange r.id r.head s.length]

/-- The violations of the governors, in document order. -/
def Document.headViolations (doc : Document) : List Violation := doc.sentences.flatMap headViolationsOf

/-- The violations of a record, its number aside. -/
def Place.ownViolations (p : Place) : List Violation :=
  let r := p.record
  (if r.index = p.position then [] else [.index r.id p.position r.index]) ++
  (if r.head < p.length then [] else [.headOutOfRange r.id r.head p.length]) ++
  (if Text.IsLowerCase r.lemmaForm then [] else [.lemmaCase r.id r.lemmaForm]) ++
  (if Text.IsLowerCase r.dep then [] else [.depCase r.id r.dep])

theorem Place.violations_of_id {p : Place} {expected : Nat} (h : p.record.id = expected) :
    p.violations expected = p.ownViolations := by
  simp only [Place.violations, Place.ownViolations, h, if_true, List.nil_append]

/-- A record without violations has the number that is expected of it. -/
theorem Place.id_of_violations {p : Place} {expected : Nat} (h : p.violations expected = []) :
    p.record.id = expected := by
  by_contra hne
  simp [Place.violations, hne] at h

theorem Place.ownViolations_eq_nil_iff {p : Place} :
    p.ownViolations = [] ↔ p.record.index = p.position ∧ p.record.head < p.length ∧
      Text.IsLowerCase p.record.lemmaForm ∧ Text.IsLowerCase p.record.dep := by
  simp [Place.ownViolations]

/-! ### Records numbered in a row -/

theorem nextId_of_lt {n : Nat} (h : n + 1 < countLimit) : nextId n = n + 1 :=
  Nat.min_eq_left (by omega)

/-- Records that are numbered in a row break no rule of numbers, whatever the first number. -/
theorem violationsFrom_of_ids {places : List Place} {start : Nat}
    (h : places.map (fun p => p.record.id) = List.range' start places.length)
    (hn : start + places.length ≤ countLimit) :
    violationsFrom start places = places.flatMap Place.ownViolations := by
  induction places generalizing start with
  | nil => rfl
  | cons p later ih =>
    rw [List.map_cons, List.length_cons, List.range'_succ, List.cons.injEq] at h
    obtain ⟨hp, hlater⟩ := h
    rw [violationsFrom, Place.violations_of_id hp, List.flatMap_cons]
    congr 1
    cases later with
    | nil => rfl
    | cons q rest =>
      rw [List.length_cons, List.length_cons] at hn
      rw [hp, nextId_of_lt (by omega)]
      exact ih hlater (by rw [List.length_cons]; omega)

/-- Only records that are numbered in a row break none. -/
theorem ids_of_violationsFrom {places : List Place} {start : Nat} (hn : start + places.length ≤ countLimit)
    (h : violationsFrom start places = []) :
    places.map (fun p => p.record.id) = List.range' start places.length := by
  induction places generalizing start with
  | nil => rfl
  | cons p later ih =>
    rw [violationsFrom, List.append_eq_nil_iff] at h
    obtain ⟨hp, hlater⟩ := h
    have hid : p.record.id = start := Place.id_of_violations hp
    rw [List.map_cons, List.length_cons, List.range'_succ, hid]
    congr 1
    cases later with
    | nil => rfl
    | cons q rest =>
      -- another record follows, so that the number is not the greatest one
      rw [List.length_cons, List.length_cons] at hn
      rw [hid, nextId_of_lt (by omega)] at hlater
      exact ih (by rw [List.length_cons]; omega) hlater

/-- When the sentences of a body break no rule. -/
theorem sentenceViolations_eq_nil_iff {body : Body} :
    body.sentenceViolations = [] ↔ ∀ ss, body = .grouped ss → ss.map Sentence.id = List.range ss.length := by
  cases body with
  | flat _ => exact iff_of_true rfl (by simp)
  | grouped ss =>
    simp only [Body.sentenceViolations, List.flatten_eq_nil_iff, List.mem_mapIdx, Body.grouped.injEq, forall_eq',
      map_eq_range_iff]
    constructor
    · intro h i hi
      by_contra hne
      exact List.cons_ne_nil _ _ ((if_neg hne).symm.trans (h _ ⟨i, hi, rfl⟩))
    · rintro h _ ⟨i, hi, rfl⟩
      exact if_pos (h i hi)

/-- A body made of sentences has them numbered in a row. -/
theorem ids_ofSentences {schema : Schema} {records : List (List Record)} {ss : List Sentence}
    (h : Body.ofSentences schema records = .grouped ss) : ss.map Sentence.id = List.range ss.length := by
  cases schema with
  | flat => cases h
  | grouped =>
    cases h
    rw [List.length_mapIdx, List.range_eq_range']
    exact map_mapIdx_eq_range' fun i _ => (Nat.zero_add i).symm

/-! ### The places of a sentence -/

theorem record_placesOf (s : List Record) : (placesOf s).map Place.record = s := by
  simp [placesOf, List.mapIdx_eq_zipIdx_map, Function.comp_def]

theorem record_flatMap_placesOf (ss : List (List Record)) : (ss.flatMap placesOf).map Place.record = ss.flatten := by
  rw [List.map_flatMap, ← List.flatMap_id']
  exact List.flatMap_congr fun s _ => record_placesOf s

theorem length_flatMap_placesOf (ss : List (List Record)) : (ss.flatMap placesOf).length = ss.flatten.length := by
  rw [← record_flatMap_placesOf, List.length_map]

theorem id_flatMap_placesOf (ss : List (List Record)) :
    (ss.flatMap placesOf).map (fun p => p.record.id) = ss.flatten.map Record.id := by
  rw [← record_flatMap_placesOf, List.map_map]
  rfl

/-- In a sentence in order, the own violations are those of the governors. -/
theorem ownViolations_placesOf {s : List Record} (hi : s.map Record.index = List.range s.length)
    (hl : ∀ r ∈ s, Text.IsLowerCase r.lemmaForm) (hd : ∀ r ∈ s, Text.IsLowerCase r.dep) :
    (placesOf s).flatMap Place.ownViolations = headViolationsOf s := by
  conv_rhs => rw [headViolationsOf, ← record_placesOf s, List.flatMap_map]
  refine List.flatMap_congr fun p hp => ?_
  obtain ⟨i, hlt, rfl⟩ := List.mem_mapIdx.1 hp
  have hidx : s[i].index = i := map_eq_range_iff.1 hi i hlt
  have hm : s[i] ∈ s := List.getElem_mem hlt
  simp only [Place.ownViolations, hidx, if_pos (hl _ hm), if_pos (hd _ hm), if_true, List.nil_append, List.append_nil,
    record_placesOf]

/-- The rules of a sentence's records, their numbers aside, said of the sentence. -/
theorem ownViolations_placesOf_eq_nil_iff {s : List Record} :
    (placesOf s).flatMap Place.ownViolations = [] ↔
      s.map Record.index = List.range s.length ∧
        ∀ r ∈ s, r.head < s.length ∧ Text.IsLowerCase r.lemmaForm ∧ Text.IsLowerCase r.dep := by
  have hplaces : (placesOf s).flatMap Place.ownViolations = [] ↔ ∀ i (hi : i < s.length),
      s[i].index = i ∧ s[i].head < s.length ∧ Text.IsLowerCase s[i].lemmaForm ∧ Text.IsLowerCase s[i].dep := by
    simp only [List.flatMap_eq_nil_iff, Place.ownViolations_eq_nil_iff, placesOf, List.mem_mapIdx]
    constructor
    · intro h i hi
      exact h _ ⟨i, hi, rfl⟩
    · rintro h _ ⟨i, hi, rfl⟩
      exact h i hi
  rw [hplaces, map_eq_range_iff, List.forall_mem_iff_getElem]
  simp only [forall_and]

/-! ### Orderly documents -/

namespace Document

variable {doc : Document}

/-- Records that are numbered through the document break no rule of numbers. -/
theorem violationsFrom_places (hids : doc.records.map Record.id = List.range doc.recordCount)
    (hn : doc.recordCount ≤ countLimit) :
    violationsFrom 0 (doc.sentences.flatMap placesOf) =
      doc.sentences.flatMap fun s => (placesOf s).flatMap Place.ownViolations := by
  have hlen : (doc.sentences.flatMap placesOf).length = doc.recordCount := length_flatMap_placesOf _
  rw [← List.flatMap_assoc]
  refine violationsFrom_of_ids ?_ (by rw [hlen]; omega)
  rw [hlen, ← List.range_eq_range', id_flatMap_placesOf]
  exact hids

/-- Only records that are numbered through the document break none. -/
theorem ids_of_violationsFrom_places (hn : doc.recordCount ≤ countLimit)
    (h : violationsFrom 0 (doc.sentences.flatMap placesOf) = []) :
    doc.records.map Record.id = List.range doc.recordCount := by
  have hlen : (doc.sentences.flatMap placesOf).length = doc.recordCount := length_flatMap_placesOf _
  have hids := ids_of_violationsFrom (by rw [hlen]; omega) h
  rwa [hlen, ← List.range_eq_range', id_flatMap_placesOf] at hids

/-- **An orderly document breaks the rule on governors only**, once for each governor outside its sentence. -/
theorem Orderly.violations_eq (h : doc.Orderly) (hn : doc.recordCount ≤ countLimit) :
    doc.violations = doc.headViolations := by
  rw [violations, sentenceViolations_eq_nil_iff.2 h.sentenceIds, List.nil_append, violationsFrom_places h.ids hn,
    headViolations]
  refine List.flatMap_congr fun s hs => ?_
  have hmem : ∀ r ∈ s, r ∈ doc.records := fun r hr => List.mem_flatten.2 ⟨s, hs, hr⟩
  exact ownViolations_placesOf (h.indices s hs) (fun r hr => h.lemmas r (hmem r hr)) fun r hr => h.deps r (hmem r hr)

theorem headViolations_eq_nil_iff : doc.headViolations = [] ↔ doc.HeadsInside := by
  rw [headViolations, List.flatMap_eq_nil_iff]
  refine forall₂_congr fun s _ => ?_
  rw [headViolationsOf, List.flatMap_eq_nil_iff]
  refine forall₂_congr fun r _ => ?_
  split
  · rename_i h
    exact iff_of_true rfl h
  · rename_i h
    exact iff_of_false (List.cons_ne_nil _ _) h

theorem Canonical.violations_eq_nil (h : doc.Canonical) (hn : doc.recordCount ≤ countLimit) : doc.violations = [] := by
  rw [h.violations_eq hn]
  exact headViolations_eq_nil_iff.2 h.heads

/-- A document without violations is canonical. -/
theorem canonical_of_violations (hn : doc.recordCount ≤ countLimit) (h : doc.violations = []) : doc.Canonical := by
  rw [violations, List.append_eq_nil_iff] at h
  obtain ⟨hsentences, hrecords⟩ := h
  have hids := ids_of_violationsFrom_places hn hrecords
  rw [violationsFrom_places hids hn, List.flatMap_eq_nil_iff] at hrecords
  have hrules := fun s hs => ownViolations_placesOf_eq_nil_iff.1 (hrecords s hs)
  have hall : ∀ r ∈ doc.records, Text.IsLowerCase r.lemmaForm ∧ Text.IsLowerCase r.dep := by
    intro r hr
    obtain ⟨s, hs, hr⟩ := List.mem_flatten.1 hr
    exact ((hrules s hs).2 r hr).2
  constructor
  · constructor
    · exact sentenceViolations_eq_nil_iff.1 hsentences
    · exact hids
    · intro s hs
      exact (hrules s hs).1
    · intro r hr
      exact (hall r hr).1
    · intro r hr
      exact (hall r hr).2
  · intro s hs r hr
    exact ((hrules s hs).2 r hr).1

/-- **The checks find nothing exactly in canonical documents.** The number expected of a record comes from the record
before it, and never exceeds the greatest count. As long as all records can be numbered, this makes no difference. -/
theorem violations_eq_nil_iff (hn : doc.recordCount ≤ countLimit) : doc.violations = [] ↔ doc.Canonical :=
  ⟨canonical_of_violations hn, fun h => h.violations_eq_nil hn⟩

/-- A document with an empty sentence between two others. -/
def gapless : Document :=
  ⟨["es"], .grouped [
    ⟨0, [⟨0, "ADP", "ADP", "case", 1, "del", 3, 0, "de"⟩, ⟨1, "DET", "DET", "det", 1, "del", 3, 1, "el"⟩]⟩,
    ⟨1, []⟩,
    ⟨2, [⟨2, "NOUN", "NOUN", "obl", 0, "ΟΔΟΣ", 8, 0, "οδος"⟩]⟩]⟩

theorem gapless_canonical : gapless.recordCount ≤ countLimit ∧ gapless.violations = [] ∧ gapless.Canonical := by
  have hn : gapless.recordCount ≤ countLimit := by decide
  have h : gapless.violations = [] := by decide +kernel
  exact ⟨hn, h, (violations_eq_nil_iff hn).1 h⟩

end Document

end WordRecords
