import WordRecords.Command.Response
import WordRecords.Proofs.Converter.Building

/-!
# Which settings win

A conversion has its version and its schema from one of three places, which have ranks: the command line, the section of
its own pipeline in the settings file, and the pipeline's profile. The highest rank that gives a value decides
(`FirstGiven`), also if the value is of no use: a blank version on the command line is an error, whatever the settings
file says (`converter_ranked`). Labels add up instead. Sections of other pipelines are not looked at.
-/

namespace WordRecords.Command

/-! ### Ranks -/

section Ranks

variable {α : Type}

/-- The value of the highest rank that gives one, where the highest comes first. -/
def FirstGiven (ranks : List (Option α)) (value : α) : Prop :=
  ∃ above below, ranks = above ++ some value :: below ∧ ∀ rank ∈ above, rank = none

theorem firstGiven_iff {ranks : List (Option α)} {value : α} :
    FirstGiven ranks value ↔ ranks.findSome? id = some value := by
  rw [List.findSome?_eq_some_iff]
  constructor
  · rintro ⟨above, below, rfl, habove⟩
    exact ⟨above, some value, below, rfl, rfl, habove⟩
  · rintro ⟨above, _, below, rfl, rfl, habove⟩
    exact ⟨above, below, rfl, habove⟩

/-- No two values have the highest rank. -/
theorem FirstGiven.unique {ranks : List (Option α)} {value value' : α} (h : FirstGiven ranks value)
    (h' : FirstGiven ranks value') : value = value' :=
  Option.some.inj ((firstGiven_iff.1 h).symm.trans (firstGiven_iff.1 h'))

section Conversion

variable (c : Conversion) (file : Settings) (given : Option α) (field : PipelineSection → Option α)
  (default : Profile → α)

/-- The places from which a conversion may have a setting: its command line, the settings file, the profile. -/
def Conversion.ranks : List (Option α) :=
  [given, (file.ofPipeline c.pipeline).bind field, some (default c.pipeline.profile)]

/-- The value that a conversion has for a setting. -/
def Conversion.chosen : α := (given.or ((file.ofPipeline c.pipeline).bind field)).getD (default c.pipeline.profile)

theorem firstGiven_chosen : FirstGiven (c.ranks file given field default) (c.chosen file given field default) := by
  rw [firstGiven_iff, Conversion.ranks, Conversion.chosen]
  cases given with
  | some value => rfl
  | none => cases (file.ofPipeline c.pipeline).bind field <;> rfl

end Conversion

end Ranks

/-! ### Settings of a conversion -/

/-- The settings files say the same for a pipeline. What they say about other pipelines may differ. -/
structure SameFor (pipeline : Pipeline) (file file' : Settings) : Prop where
  labels : file'.labels = file.labels
  ofPipeline : file'.ofPipeline pipeline = file.ofPipeline pipeline

/-- The builder of a conversion, when all that is said has been said. -/
theorem applyAll_settings (c : Conversion) (file : Settings) :
    (Builder.start c.pipeline).applyAll (c.settings file) = {
      pipeline := c.pipeline
      version := c.version.or ((file.ofPipeline c.pipeline).bind (·.version))
      schema := c.schema.or ((file.ofPipeline c.pipeline).bind (·.schema))
      labels := file.labels ++ c.labels
      source := c.source } := by
  rw [Conversion.settings]
  -- each of the three steps that set something is made or left out
  cases c.source <;> cases c.version.or ((file.ofPipeline c.pipeline).bind (·.version)) <;>
    cases c.schema.or ((file.ofPipeline c.pipeline).bind (·.schema)) <;> rfl

/-- The converter that a request asks for. -/
theorem converter_eq (c : Conversion) (file : Settings) :
    c.converter file =
      if Text.trim (c.chosen file c.version (·.version) (·.defaultVersion)) = "" then
        .error ⟨.conversion .blankVersion, ["Failed to configure converter"]⟩
      else .ok {
        pipeline := c.pipeline
        version := c.chosen file c.version (·.version) (·.defaultVersion)
        schema := c.chosen file c.schema (·.schema) (·.schema)
        labels := file.labels ++ c.labels
        source := c.source } := by
  rw [Conversion.converter, applyAll_settings, Builder.build_eq, Conversion.chosen, Conversion.chosen]
  split <;> rfl

theorem SameFor.settings_eq {c : Conversion} {file file' : Settings} (h : SameFor c.pipeline file file') :
    c.settings file' = c.settings file := by
  rw [Conversion.settings, Conversion.settings, h.labels, h.ofPipeline]

/-- **The highest rank that gives a value decides.** A converter has its version and its schema each from the command
line, or else from the section of its own pipeline, or else from the pipeline's profile; it has the labels of the
settings file and then those of the command line, and the source file of the command line. There is none, and the
settings are to blame, exactly when nothing but white space is left of the version that decides. What the settings file
says about another pipeline makes no difference. -/
theorem converter_ranked (c : Conversion) (file : Settings) :
    (∃ version schema,
      FirstGiven (c.ranks file c.version (·.version) (·.defaultVersion)) version ∧
      FirstGiven (c.ranks file c.schema (·.schema) (·.schema)) schema ∧
      (∀ converter, c.converter file = .ok converter ↔
        Text.trim version ≠ "" ∧ converter = {
          pipeline := c.pipeline
          version := version
          schema := schema
          labels := file.labels ++ c.labels
          source := c.source }) ∧
      ∀ failure, c.converter file = .error failure ↔
        Text.trim version = "" ∧ failure = ⟨.conversion .blankVersion, ["Failed to configure converter"]⟩) ∧
    ∀ file', SameFor c.pipeline file file' → c.converter file' = c.converter file := by
  refine ⟨⟨_, _, firstGiven_chosen .., firstGiven_chosen .., ?_⟩, fun file' h => ?_⟩
  · rw [converter_eq]
    split
    · rename_i hblank
      refine ⟨fun converter => iff_of_false (by rintro ⟨⟩) fun h => h.1 hblank, fun failure => ?_⟩
      rw [Except.error.injEq, eq_comm]
      exact (and_iff_right hblank).symm
    · rename_i hversion
      refine ⟨fun converter => ?_, fun failure => iff_of_false (by rintro ⟨⟩) fun h => hversion h.1⟩
      rw [Except.ok.injEq, eq_comm]
      exact (and_iff_right hversion).symm
  · rw [Conversion.converter, Conversion.converter, h.settings_eq]

/-- A schema on the command line, and a version in the settings file. -/
def novelRequest : Conversion :=
  ⟨"novel.json", .stanza, some "a-b.txt", none, some .grouped, ["novela"], none, false, some "settings.toml"⟩

def novelSettings : Settings := ⟨["es"], some ⟨some "1.8.0", some .flat⟩, none, false⟩

/-- The same with a blank version for the other pipeline. -/
def otherSettings : Settings := ⟨["es"], some ⟨some "1.8.0", some .flat⟩, some ⟨some " ", some .flat⟩, true⟩

theorem converter_novelRequest :
    SameFor novelRequest.pipeline novelSettings otherSettings ∧
      novelRequest.converter novelSettings = .ok ⟨.stanza, "1.8.0", .grouped, ["es", "novela"], some "a-b.txt"⟩ ∧
      novelRequest.converter otherSettings = novelRequest.converter novelSettings := by
  have hsame : SameFor novelRequest.pipeline novelSettings otherSettings := ⟨rfl, rfl⟩
  obtain ⟨⟨version, schema, hversion, hschema, hok, -⟩, hother⟩ := converter_ranked novelRequest novelSettings
  have hfile :
      FirstGiven (novelRequest.ranks novelSettings novelRequest.version (·.version) (·.defaultVersion)) "1.8.0" :=
    ⟨[none], [some "1.9.2"], rfl, by simp⟩
  have hline : FirstGiven (novelRequest.ranks novelSettings novelRequest.schema (·.schema) (·.schema)) .grouped :=
    ⟨[], [some .flat, some .grouped], rfl, by simp⟩
  obtain rfl := hversion.unique hfile
  obtain rfl := hschema.unique hline
  exact ⟨hsame, (hok _).2 ⟨by decide +kernel, rfl⟩, hother otherSettings hsame⟩

/-- A blank version on the command line is not made up for by the settings file. -/
example : ({ novelRequest with version := some " " } : Conversion).converter novelSettings =
    .error ⟨.conversion .blankVersion, ["Failed to configure converter"]⟩ := by
  decide +kernel

end WordRecords.Command
