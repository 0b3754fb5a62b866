import WordRecords.Pipeline
import WordRecords.Toml.Parse

/-!
# Settings

A settings file in TOML gives labels for all documents, versions and schemas for pipelines, and the layout of the
output. Keys that are not known are passed over, with two exceptions: a section must not be named after a pipeline that
does not exist, and the numbers under unknown keys must be such that can be held.
-/

namespace WordRecords

/-- What a settings file says about one pipeline. -/
structure PipelineSection where
  version : Option String
  schema : Option Schema
deriving DecidableEq

/-- What a settings file says. -/
structure Settings where
  /-- Labels for all documents. -/
  labels : List String
  stanza : Option PipelineSection
  spacy : Option PipelineSection
  /-- Whether the output is indented. -/
  pretty : Bool
deriving DecidableEq

/-- Why a text holds no settings. -/
inductive SettingsError
  /-- It is no TOML, or a value has the wrong type. -/
  | unreadable
  /-- A section is named after no pipeline. -/
  | unknownSection (name : String)
deriving DecidableEq

def SettingsError.message : SettingsError → String
  | .unreadable => "invalid TOML"
  | .unknownSection name => s!"Configuration error: unknown pipeline section [pipelines.{name}]"

namespace Settings

def empty : Settings := ⟨[], none, none, false⟩

def ofPipeline (s : Settings) : Pipeline → Option PipelineSection
  | .stanza => s.stanza
  | .spacy => s.spacy

/-! ### Reading -/

open Toml

def textOf? : Value → Option String
  | .text s => some s
  | _ => none

def boolOf? : Value → Option Bool
  | .bool b => some b
  | _ => none

/-- A list of strings. -/
def textsOf? : Value → Option (List String)
  | .list _ items => items.mapM textOf?
  | _ => none

/-- Whether a value is an empty container. -/
def isEmptyContainer : Value → Bool
  | .list _ [] | .table _ [] => true
  | _ => false

/-- A schema: its name, or a table in which the name has an empty container as its value. -/
def schemaOf? : Value → Option Schema
  | .text s => Schema.ofName? s
  | .table _ [(name, value)] => if isEmptyContainer value then Schema.ofName? name else none
  | _ => none

/-- An entry that may be missing: nothing if it is, and a failure if it has the wrong type. -/
def field? {α : Type} (entries : Entries) (key : String) (read : Value → Option α) : Option (Option α) :=
  match entries.find? key with
  | none => some none
  | some value => (read value).map some

/-- Fails if a table has a number that cannot be held under any but the known keys. -/
def checkOthers (known : List String) (entries : Entries) : Option Unit :=
  if entries.all fun (key, value) => known.contains key || value.holds then some () else none

/-- The labels in the section on conversion. The section may also be written as a list of its values. -/
def labelsOf? : Value → Option (List String)
  | .table _ entries => do
    let labels ← field? entries "labels" textsOf?
    checkOthers ["labels"] entries
    pure (labels.getD [])
  | .list _ [] | .moment => some []
  | .list _ (labels :: _) => textsOf? labels
  | _ => none

/-- The layout in the section on output. The section may also be written as a list of its values. -/
def prettyOf? : Value → Option Bool
  | .table _ entries => do
    let pretty ← field? entries "pretty" boolOf?
    checkOthers ["pretty"] entries
    pure (pretty.getD false)
  | .list _ [] | .moment => some false
  | .list _ (pretty :: _) => boolOf? pretty
  | _ => none

/-- The section of a pipeline. It may also be written as a list of its two values. -/
def sectionOf? : Value → Option PipelineSection
  | .table _ entries => do
    let version ← field? entries "version" textOf?
    let schema ← field? entries "schema" schemaOf?
    checkOthers ["version", "schema"] entries
    pure ⟨version, schema⟩
  | .list _ (version :: schema :: _) => do
    let version ← textOf? version
    let schema ← schemaOf? schema
    pure ⟨some version, some schema⟩
  | .moment => some ⟨none, none⟩
  | _ => none

/-- The sections of all pipelines, with their names. -/
def sectionsOf? : Value → Option (List (String × PipelineSection))
  | .table _ entries => entries.mapM fun (name, value) => (sectionOf? value).map (name, ·)
  | _ => none

/-- The first name of a list, in the order of code points. -/
def leastName? : List String → Option String
  | [] => none
  | name :: rest =>
    match leastName? rest with
    | some least => if least < name then some least else some name
    | none => some name

/-- The settings that a table describes, with all sections of pipelines. -/
def ofEntries? (entries : Entries) : Option (List String × List (String × PipelineSection) × Bool) := do
  let labels ← field? entries "conversion" labelsOf?
  let sections ← field? entries "pipelines" sectionsOf?
  let pretty ← field? entries "output" prettyOf?
  checkOthers ["conversion", "pipelines", "output"] entries
  pure (labels.getD [], sections.getD [], pretty.getD false)

/-- The settings that a text holds. Types are checked before the names of sections. -/
def ofText (text : String) : Except SettingsError Settings :=
  match (parse? text).bind ofEntries? with
  | none => .error .unreadable
  | some (labels, sections, pretty) =>
    match leastName? ((sections.map Prod.fst).filter fun name => (Pipeline.ofName? name).isNone) with
    | some name => .error (.unknownSection name)
    | none => .ok ⟨labels, sections.lookup "stanza", sections.lookup "spacy", pretty⟩

end Settings

end WordRecords
