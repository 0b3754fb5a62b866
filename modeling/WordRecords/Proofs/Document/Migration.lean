import WordRecords.Proofs.Document.Canonical

/-!
# Checks of migrated documents

Going to another schema takes the violations of sentence numbers away and leaves all others as they are, in the same
order (`Document.violations_withSchema`).

The violations of a document come in two lists: those of the sentences, which all concern sentence numbers, and those of
the records, none of which does. The records with their places are the same in all schemas, so that the second list
stays; the first one becomes empty, as sentences are numbered anew.
-/

namespace WordRecords

/-- Whether the number of a sentence is at fault. -/
def Violation.isSentenceId : Violation → Bool
  | .sentenceId _ _ => true
  | .idGap _ _ | .index _ _ _ | .headOutOfRange _ _ _ | .lemmaCase _ _ | .depCase _ _ => false

/-! ### Violations of sentences -/

theorem isSentenceId_of_mem_sentenceViolations {body : Body} {v : Violation} (h : v ∈ body.sentenceViolations) :
    v.isSentenceId = true := by
  cases body with
  | flat ss => cases h
  | grouped ss =>
    obtain ⟨vs, hvs, hv⟩ := List.mem_flatten.1 h
    obtain ⟨i, hi, rfl⟩ := List.mem_mapIdx.1 hvs
    split at hv
    · cases hv
    · rw [List.mem_singleton.1 hv]
      rfl

theorem sentenceViolations_ofSentences (schema : Schema) (ss : List (List Record)) :
    (Body.ofSentences schema ss).sentenceViolations = [] :=
  sentenceViolations_eq_nil_iff.2 fun _ h => ids_ofSentences h

/-! ### Violations of records -/

/-- The one violation that a broken rule gives. -/
theorem eq_of_mem_breach {rule : Prop} [Decidable rule] {v breach : Violation}
    (h : v ∈ if rule then [] else [breach]) : v = breach := by
  split at h
  · cases h
  · exact List.mem_singleton.1 h

theorem Place.isSentenceId_of_mem_violations {p : Place} {expected : Nat} {v : Violation}
    (h : v ∈ p.violations expected) : v.isSentenceId = false := by
  simp only [Place.violations, List.mem_append] at h
  rcases h with (((h | h) | h) | h) | h
  all_goals
    rw [eq_of_mem_breach h]
    rfl

theorem isSentenceId_of_mem_violationsFrom {places : List Place} {expected : Nat} {v : Violation}
    (h : v ∈ violationsFrom expected places) : v.isSentenceId = false := by
  induction places generalizing expected with
  | nil => cases h
  | cons p later ih =>
    rw [violationsFrom, List.mem_append] at h
    rcases h with h | h
    · exact p.isSentenceId_of_mem_violations h
    · exact ih h

/-- **Migration repairs the numbers of the sentences and nothing else.** -/
theorem Document.violations_withSchema (doc : Document) (schema : Schema) :
    (doc.withSchema schema).violations = doc.violations.filter fun v => !v.isSentenceId := by
  have hsentences : doc.body.sentenceViolations.filter (fun v => !v.isSentenceId) = [] := by
    rw [List.filter_eq_nil_iff]
    intro v hv
    simp [isSentenceId_of_mem_sentenceViolations hv]
  have hrecords : (violationsFrom 0 (doc.sentences.flatMap placesOf)).filter (fun v => !v.isSentenceId) =
      violationsFrom 0 (doc.sentences.flatMap placesOf) := by
    rw [List.filter_eq_self]
    intro v hv
    simp [isSentenceId_of_mem_violationsFrom hv]
  have hrepaired : (doc.withSchema schema).body.sentenceViolations = [] := sentenceViolations_ofSentences schema _
  calc (doc.withSchema schema).violations
      = violationsFrom 0 (doc.sentences.flatMap placesOf) := by
        rw [violations, hrepaired, List.nil_append, sentences_withSchema]
    _ = doc.violations.filter fun v => !v.isSentenceId := by
        rw [violations, List.filter_append, hsentences, hrecords, List.nil_append]

end WordRecords
