import WordRecords.Command.Arguments
import WordRecords.Document
import WordRecords.Pipeline

/-!
# Requests

What a command line asks for: a conversion, a check, a migration to another schema, or a list.
-/

namespace WordRecords.Command

/-- The request of a conversion. -/
structure Conversion where
  /-- The file with the output of the pipeline. -/
  input : String
  pipeline : Pipeline
  /-- The source file, whose name gives labels. -/
  source : Option String
  version : Option String
  schema : Option Schema
  labels : List String
  /-- The file for the document; none for standard output. -/
  output : Option String
  /-- Whether the document is indented. -/
  pretty : Bool
  config : Option String

/-- The request of a migration. -/
structure Migration where
  /-- The file with the document. -/
  input : String
  schema : Schema
  /-- The file for the document; none for standard output. -/
  output : Option String
  /-- Whether the document is indented. -/
  pretty : Bool

inductive Request
  /-- Convert the output of a pipeline. -/
  | convert (c : Conversion)
  | validate (input : String)
  /-- Store a document in another schema. -/
  | migrate (m : Migration)
  | listPipelines
  | listSchemas

/-! ### Interfaces -/

/-- The parameters that say where a document goes and how much is logged. -/
def outputParameters : List Parameter := [
  ⟨"output", some 'o', .value⟩, ⟨"pretty", none, .flag⟩, ⟨"quiet", some 'q', .flag⟩, ⟨"verbose", some 'v', .count⟩]

def convertInterface : Interface := {
  parameters := outputParameters ++ [
    ⟨"pipeline", some 'p', .value⟩, ⟨"source", some 's', .value⟩, ⟨"pipeline-version", none, .value⟩,
    ⟨"schema", none, .value⟩, ⟨"label", some 'l', .values⟩, ⟨"config", some 'c', .value⟩]
  positional := 1 }

def validateInterface : Interface := ⟨[], 1⟩

def migrateInterface : Interface := ⟨outputParameters ++ [⟨"schema", none, .value⟩], 1⟩

def listInterface : Interface := ⟨[], 0⟩

/-! ### From arguments to requests -/

/-- A value that may be missing: nothing if it is, and a failure if it is not accepted. -/
def readValue {α : Type} (accept : String → Option α) : Option String → Option (Option α)
  | none => some none
  | some value => (accept value).map some

/-- A path, which is not empty. -/
def acceptPath (path : String) : Option String := if path = "" then none else some path

/-- The path that is the only argument without a name. -/
def inputOf (args : Arguments) : Option String := args.plain.head?.bind acceptPath

/-- The request of a conversion that arguments make. -/
def Conversion.ofArguments? (args : Arguments) : Option Conversion := do
  let input ← inputOf args
  let pipeline ← (args.valueOf "pipeline").bind Pipeline.ofName?
  let source ← readValue acceptPath (args.valueOf "source")
  let schema ← readValue Schema.ofName? (args.valueOf "schema")
  let output ← readValue acceptPath (args.valueOf "output")
  let config ← readValue acceptPath (args.valueOf "config")
  pure {
    input := input
    pipeline := pipeline
    source := source
    version := args.valueOf "pipeline-version"
    schema := schema
    labels := args.valuesOf "label"
    output := output
    pretty := args.has "pretty"
    config := config }

/-- The request of a migration that arguments make. Without a schema it goes to the grouped one. -/
def Migration.ofArguments? (args : Arguments) : Option Migration := do
  let input ← inputOf args
  let schema ← readValue Schema.ofName? (args.valueOf "schema")
  let output ← readValue acceptPath (args.valueOf "output")
  pure {
    input := input
    schema := schema.getD .grouped
    output := output
    pretty := args.has "pretty" }

/-- The request that a command line makes. -/
def Request.ofArguments? : List String → Option Request
  | "convert" :: args => do
    let args ← convertInterface.read? args
    let c ← Conversion.ofArguments? args
    pure (.convert c)
  | "validate" :: args => do
    let args ← validateInterface.read? args
    let input ← inputOf args
    pure (.validate input)
  | "migrate" :: args => do
    let args ← migrateInterface.read? args
    let m ← Migration.ofArguments? args
    pure (.migrate m)
  | "list" :: "pipelines" :: args => (listInterface.read? args).map fun _ => .listPipelines
  | "list" :: "schemas" :: args => (listInterface.read? args).map fun _ => .listSchemas
  | _ => none

end WordRecords.Command
