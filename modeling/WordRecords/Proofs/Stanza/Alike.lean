import WordRecords.Assembly
import WordRecords.Proofs.Stanza.Reading
import WordRecords.SurfaceUnit.Offset

/-!
# Entries that say the same

Two entries are `Alike` when they describe the same thing, have the same text and analysis, and come to the same offset,
whether it is given as a number or among other data. Alike sentences are read as alike units (`readSentences_alike`),
and alike units are assembled to the same document, or spoil it with the same text (`assemble_congr`).

Being alike is symmetric, so that one direction of every statement is enough.
-/

namespace WordRecords

/-! ### Units -/

/-- Two units that differ at most in how their offset is given. -/
structure SurfaceUnit.Alike (u u' : SurfaceUnit) : Prop where
  text : u.text = u'.text
  decomposition : u.decomposition = u'.decomposition
  offset : u.offset.resolve? = u'.offset.resolve?

theorem SurfaceUnit.Alike.anchor_eq {u u' : SurfaceUnit} (h : u.Alike u') : u.anchor = u'.anchor := by
  have hflat : u.flatWords = u'.flatWords := by
    rw [SurfaceUnit.flatWords, SurfaceUnit.flatWords, h.decomposition]
  rw [SurfaceUnit.anchor, SurfaceUnit.anchor, h.offset, hflat, h.text]

theorem anchorSentence_congr {us us' : UnitSentence} (h : List.Forall₂ SurfaceUnit.Alike us us') :
    anchorSentence us = anchorSentence us' := by
  have hm : us.mapM SurfaceUnit.anchor = us'.mapM SurfaceUnit.anchor :=
    mapM_congr_forall₂ (h.imp fun _ _ hu => hu.anchor_eq)
  rw [anchorSentence, anchorSentence, hm]

/-- Alike units make the same document, or none for the same reason. -/
theorem assemble_congr {ss ss' : List UnitSentence} (h : List.Forall₂ (List.Forall₂ SurfaceUnit.Alike) ss ss')
    (schema : Schema) (labels : List String) : assemble schema labels ss = assemble schema labels ss' := by
  have hm : ss.mapM anchorSentence = ss'.mapM anchorSentence :=
    mapM_congr_forall₂ (h.imp fun _ _ hus => anchorSentence_congr hus)
  rw [assemble, assemble, assembleSentences, assembleSentences, hm]

namespace Stanza

theorem wordCount_congr {us us' : UnitSentence} (h : List.Forall₂ SurfaceUnit.Alike us us') :
    wordCount us = wordCount us' := by
  have hd : us.map SurfaceUnit.decomposition = us'.map SurfaceUnit.decomposition :=
    forall₂_eq_iff.1 (h.imp fun _ _ hu => hu.decomposition)
  have hcount : ∀ vs : UnitSentence,
      wordCount vs = ((vs.map SurfaceUnit.decomposition).flatMap Decomposition.words).length := by
    intro vs
    rw [wordCount, List.flatMap_map]
  rw [hcount, hcount, hd]

theorem HeadsWithin.alike {us us' : UnitSentence} (hh : HeadsWithin us) (h : List.Forall₂ SurfaceUnit.Alike us us') :
    HeadsWithin us' := by
  intro unit' hu' word hw n hn
  obtain ⟨unit, hu, halike⟩ := exists_of_mem_right h hu'
  rw [← halike.decomposition] at hw
  rw [← wordCount_congr h]
  exact hh unit hu word hw n hn

/-! ### Entries -/

/-- Two entries that differ at most in how their identification and their offset are given. -/
structure Entry.Alike (e e' : Entry) : Prop where
  id : e.id.parse? = e'.id.parse?
  text : e.text = e'.text
  lemmaForm : e.lemmaForm = e'.lemmaForm
  upos : e.upos = e'.upos
  feats : e.feats = e'.feats
  head : e.head = e'.head
  deprel : e.deprel = e'.deprel
  offset : e.offsetHint.resolve? = e'.offsetHint.resolve?

variable {e e' : Entry}

theorem Entry.Alike.symm (h : e.Alike e') : e'.Alike e :=
  ⟨h.id.symm, h.text.symm, h.lemmaForm.symm, h.upos.symm, h.feats.symm, h.head.symm, h.deprel.symm, h.offset.symm⟩

theorem Entry.Alike.toWord_eq (h : e.Alike e') (n : Nat) : e.toWord n = e'.toWord n := by
  have hneed : ∀ {α : Type} (field : String) (value? : Option α), e.need field value? = e'.need field value? := by
    intro α field value?
    rw [Entry.need.eq_def, Entry.need.eq_def, h.text]
  simp only [Entry.toWord, hneed, h.head, h.upos, h.deprel, h.lemmaForm, h.feats]

theorem Entry.Alike.inRun {low high : Nat} {word : Word} (h : e.Alike e') (hr : InRun low high e word) :
    InRun low high e' word := by
  obtain ⟨n, hid, hlow, hhigh, hw⟩ := hr
  exact ⟨n, h.id ▸ hid, hlow, hhigh, h.toWord_eq n ▸ hw⟩

theorem Entry.Alike.unit_alike (h : e.Alike e') (text : String) (d : Decomposition) :
    SurfaceUnit.Alike ⟨text, e.offsetHint, d⟩ ⟨text, e'.offsetHint, d⟩ :=
  ⟨rfl, rfl, h.offset⟩

variable {es es' : List Entry}

theorem RunEnds.alike {low high : Nat} (hr : RunEnds low high es) (h : List.Forall₂ Entry.Alike es es') :
    RunEnds low high es' := by
  cases h with
  | nil => trivial
  | cons he _ =>
    obtain ⟨id, hid, hout⟩ := hr
    exact ⟨id, he.id ▸ hid, hout⟩

theorem inRun_of_alike {low high : Nat} {words : List Word} (h : List.Forall₂ Entry.Alike es es')
    (hrun : List.Forall₂ (InRun low high) es words) : List.Forall₂ (InRun low high) es' words := by
  refine (forall₂_comp h.flip hrun).imp fun _ _ hw => ?_
  obtain ⟨_, he, hw⟩ := hw
  exact Entry.Alike.inRun he hw

/-! ### Sentences -/

/-- Alike entries make alike units. -/
theorem Reads.alike {units : UnitSentence} (hr : Reads es units) (h : List.Forall₂ Entry.Alike es es') :
    ∃ units', Reads es' units' ∧ List.Forall₂ SurfaceUnit.Alike units units' := by
  induction hr generalizing es' with
  | nil =>
    cases h
    exact ⟨[], .nil, .nil⟩
  | word hid htext hw _ ih =>
    cases h with
    | cons he hrest =>
      obtain ⟨units', hr', hunits⟩ := ih hrest
      exact ⟨_, .word (he.id ▸ hid) (he.text ▸ htext) (he.toWord_eq _ ▸ hw) hr', .cons (he.unit_alike _ _) hunits⟩
  | range hid htext hle hcount hrun hend hlen _ ih =>
    cases h with
    | cons he hrest =>
      obtain ⟨taken', later', htaken, hlater, rfl⟩ := exists_append_of_forall₂ hrest
      obtain ⟨units', hr', hunits⟩ := ih hlater
      exact ⟨_, .range (he.id ▸ hid) (he.text ▸ htext) hle hcount (inRun_of_alike htaken hrun) (hend.alike hlater) hlen
        hr', .cons (he.unit_alike _ _) hunits⟩

theorem readSentence_alike {units : UnitSentence} (hr : readSentence es = .ok units)
    (h : List.Forall₂ Entry.Alike es es') :
    ∃ units', readSentence es' = .ok units' ∧ List.Forall₂ SurfaceUnit.Alike units units' := by
  obtain ⟨hreads, hheads⟩ := readSentence_eq_ok_iff.1 hr
  obtain ⟨units', hreads', hunits⟩ := hreads.alike h
  exact ⟨units', readSentence_eq_ok_iff.2 ⟨hreads', hheads.alike hunits⟩, hunits⟩

/-- **Alike sentences are read as alike units.** -/
theorem readSentences_alike {ss ss' : List (List Entry)} {us : List UnitSentence} (hr : readSentences ss = .ok us)
    (h : List.Forall₂ (List.Forall₂ Entry.Alike) ss ss') :
    ∃ us', readSentences ss' = .ok us' ∧ List.Forall₂ (List.Forall₂ SurfaceUnit.Alike) us us' := by
  simp only [readSentences, mapM_eq_ok_iff] at hr ⊢
  induction h generalizing us with
  | nil =>
    cases hr
    exact ⟨[], .nil, .nil⟩
  | cons hes _ ih =>
    cases hr with
    | cons hu hr =>
      obtain ⟨u', hu', hunits⟩ := readSentence_alike hu hes
      obtain ⟨us', hus', hrest⟩ := ih hr
      exact ⟨u' :: us', .cons hu' hus', .cons hunits hrest⟩

end Stanza

end WordRecords
