import WordRecords.Converter
import WordRecords.Proofs.Text.Blank

/-!
# What the steps of setting up a converter come to

Steps that set something replace each other, steps that add labels add up, and neither kind touches what the other does
(`applyAll_eq`, one step at a time by `apply_eq`). A converter therefore depends on its steps only through the four
lists of `Choices`: the last version, schema and source count, and all labels. The version is looked at when everything
is said, so that a blank one in between does no harm (`build_applyAll`).
-/

namespace WordRecords

/-! ### Steps -/

namespace Setting

/-- The version that a step sets. -/
def version? : Setting → Option String
  | .version v => some v
  | _ => none

/-- The schema that a step sets. -/
def schema? : Setting → Option Schema
  | .schema s => some s
  | _ => none

/-- The source file that a step sets. -/
def source? : Setting → Option String
  | .source path => some path
  | _ => none

/-- The labels that a step adds. -/
def added : Setting → List String
  | .label l => [l]
  | .labels ls => ls
  | _ => []

end Setting

/-- What steps say, each setting for itself. -/
structure Choices where
  /-- The versions, in the order in which they are set. -/
  versions : List String
  schemas : List Schema
  /-- The labels, in the order in which they are added. -/
  labels : List String
  sources : List String
deriving DecidableEq

/-- What the steps say. -/
def Choices.ofSettings (steps : List Setting) : Choices where
  versions := steps.filterMap Setting.version?
  schemas := steps.filterMap Setting.schema?
  labels := steps.flatMap Setting.added
  sources := steps.filterMap Setting.source?

namespace Builder

/-- What one step does: it sets what it names, and keeps the rest. -/
theorem apply_eq (b : Builder) (step : Setting) :
    b.apply step = {
      pipeline := b.pipeline
      version := step.version?.or b.version
      schema := step.schema?.or b.schema
      labels := b.labels ++ step.added
      source := step.source?.or b.source } := by
  cases step <;> simp [apply, Setting.version?, Setting.schema?, Setting.source?, Setting.added]

/-- The last value that is set, or else the value before, after one more step in front. -/
theorem getLast?_filterMap_cons {α : Type} (value? : Setting → Option α) (step : Setting) (steps : List Setting)
    (old : Option α) :
    ((step :: steps).filterMap value?).getLast?.or old =
      (steps.filterMap value?).getLast?.or ((value? step).or old) := by
  cases h : value? step with
  | none => rw [List.filterMap_cons_none h, Option.none_or]
  | some value =>
    rw [List.filterMap_cons_some h, List.getLast?_cons]
    cases (steps.filterMap value?).getLast? <;> rfl

/-- What steps in a row do. -/
theorem applyAll_eq (b : Builder) (steps : List Setting) :
    b.applyAll steps = {
      pipeline := b.pipeline
      version := (Choices.ofSettings steps).versions.getLast?.or b.version
      schema := (Choices.ofSettings steps).schemas.getLast?.or b.schema
      labels := b.labels ++ (Choices.ofSettings steps).labels
      source := (Choices.ofSettings steps).sources.getLast?.or b.source } := by
  induction steps generalizing b with
  | nil => simp [applyAll, Choices.ofSettings]
  | cons step steps ih =>
    have hstep : b.applyAll (step :: steps) = (b.apply step).applyAll steps := rfl
    rw [hstep, ih, apply_eq]
    simp only [Choices.ofSettings, getLast?_filterMap_cons, List.flatMap_cons, List.append_assoc]

theorem applyAll_start (pipeline : Pipeline) (steps : List Setting) :
    (start pipeline).applyAll steps = {
      pipeline := pipeline
      version := (Choices.ofSettings steps).versions.getLast?
      schema := (Choices.ofSettings steps).schemas.getLast?
      labels := (Choices.ofSettings steps).labels
      source := (Choices.ofSettings steps).sources.getLast? } := by
  simp only [applyAll_eq, start, Option.or_none, List.nil_append]

/-- What a builder gives: nothing but what was set, or the profile's values, and no converter without a version. -/
theorem build_eq (b : Builder) :
    b.build =
      if Text.trim (b.version.getD b.pipeline.profile.defaultVersion) = "" then .error .blankVersion
      else .ok {
        pipeline := b.pipeline
        version := b.version.getD b.pipeline.profile.defaultVersion
        schema := b.schema.getD b.pipeline.profile.schema
        labels := b.labels
        source := b.source } := by
  simp only [build, Text.trim_eq_empty_iff]

/-- **What is built depends on the order of the steps within each setting only.** A converter has the last version,
schema and source file that were set, those of the pipeline's profile where there is none, and all labels in the order
in which they were added. There is no converter exactly when nothing but white space is left of the version that counts.
Steps that say the same about each setting, in whatever order, build the same converter or fail alike. -/
theorem build_applyAll (pipeline : Pipeline) (steps : List Setting) :
    (let choices := Choices.ofSettings steps
      let version := choices.versions.getLast?.getD pipeline.profile.defaultVersion
      ((start pipeline).applyAll steps).build =
        if Text.trim version = "" then .error .blankVersion
        else .ok {
          pipeline := pipeline
          version := version
          schema := choices.schemas.getLast?.getD pipeline.profile.schema
          labels := choices.labels
          source := choices.sources.getLast? }) ∧
      ∀ steps', Choices.ofSettings steps' = Choices.ofSettings steps →
        ((start pipeline).applyAll steps').build = ((start pipeline).applyAll steps).build := by
  constructor
  · simp only [build_eq, applyAll_start]
  · intro steps' h
    rw [applyAll_start, applyAll_start, h]

/-- Steps with a blank version that another one replaces. -/
def mixedSteps : List Setting :=
  [.version " ", .label "es", .schema .grouped, .source "a-b.txt", .version "3.8", .labels ["x", "y"], .schema .flat]

/-- The same in another order, with the labels added one by one. -/
def sortedSteps : List Setting :=
  [.source "a-b.txt", .version " ", .version "3.8", .label "es", .label "x", .label "y", .schema .grouped,
    .schema .flat]

theorem build_mixedSteps :
    Choices.ofSettings sortedSteps = Choices.ofSettings mixedSteps ∧
      ((start .spacy).applyAll mixedSteps).build = .ok ⟨.spacy, "3.8", .flat, ["es", "x", "y"], some "a-b.txt"⟩ ∧
      ((start .spacy).applyAll sortedSteps).build = ((start .spacy).applyAll mixedSteps).build := by
  have hchoices : Choices.ofSettings sortedSteps = Choices.ofSettings mixedSteps := by decide
  obtain ⟨hbuild, hsame⟩ := build_applyAll .spacy mixedSteps
  refine ⟨hchoices, ?_, hsame sortedSteps hchoices⟩
  rw [hbuild]
  decide +kernel

end Builder

end WordRecords
