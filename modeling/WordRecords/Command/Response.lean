import WordRecords.Command.Files
import WordRecords.Command.Request
import WordRecords.Converter
import WordRecords.Document.Json
import WordRecords.Document.Violation
import WordRecords.Settings

/-!
# Responses

`respond` says what a request leads to, given the texts of the files it names: a text for standard output, or a text for
one file, or a failure. Nothing is written before all of that is known. `Files.execute` carries a response out.
-/

namespace WordRecords.Command

/-- What went wrong. -/
inductive Cause
  /-- A conversion failed. -/
  | conversion (e : ConversionError)
  /-- A text is not a document. -/
  | document (p : Json.Problem)
  /-- A text holds no settings. -/
  | settings (e : SettingsError)
  /-- A document has violations. -/
  | violations (path : String) (count : Nat)
  /-- A file could not be read or written. -/
  | file
deriving DecidableEq

def Cause.message : Cause → String
  | .conversion e => e.message
  | .document _ => "invalid JSON"
  | .settings e => e.message
  | .violations path count => s!"Invalid document {path}: {count} violation(s)"
  | .file => "input/output error"

/-- A failure: its cause, and what was being done, the outermost step first. -/
structure Failure where
  cause : Cause
  /-- What was being done. -/
  context : List String
deriving DecidableEq

/-- What a request leads to. -/
inductive Response
  /-- A text goes to standard output. -/
  | shown (text : String)
  /-- A text goes to a file. -/
  | saved (path : String) (text : String)
  /-- A text goes to standard output, and the request fails nevertheless. -/
  | refused (text : String) (failure : Failure)

/-- The result of a step, or its failure with what was being done. -/
def during {ε α : Type} (doing : String) (cause : ε → Cause) : Except ε α → Except Failure α
  | .ok a => .ok a
  | .error e => .error ⟨cause e, [doing]⟩

/-- The text of a file that a step needs. -/
def fileText (contents : String → Option String) (doing : String) (path : String) : Except Failure String :=
  match contents path with
  | some text => .ok text
  | none => .error ⟨.file, [doing ++ path]⟩

/-- Where a text goes. -/
def deliver (output : Option String) (text : String) : Response :=
  match output with
  | some path => .saved path text
  | none => .shown text

/-- The layout that a wish for indentation means. -/
def layoutOf (pretty : Bool) : Json.Layout := if pretty then .indented else .compact

/-! ### Conversion -/

/-- The settings that a settings file holds. Without a file there are none. -/
def loadSettings (contents : String → Option String) : Option String → Except Failure Settings
  | none => .ok .empty
  | some path => do
    let text ← fileText contents "Failed to read config file: " path
    during ("Invalid config file: " ++ path) .settings (Settings.ofText text)

/-- The settings of the converter that a request asks for. What the request says wins over the settings file, and the
labels of both add up. -/
def Conversion.settings (c : Conversion) (file : Settings) : List Setting :=
  let overrides := file.ofPipeline c.pipeline
  [.labels file.labels, .labels c.labels]
    ++ (c.source.map Setting.source).toList
    ++ ((c.version.or (overrides.bind (·.version))).map Setting.version).toList
    ++ ((c.schema.or (overrides.bind (·.schema))).map Setting.schema).toList

/-- The converter that a request asks for. -/
def Conversion.converter (c : Conversion) (file : Settings) : Except Failure Converter :=
  during "Failed to configure converter" .conversion ((Builder.start c.pipeline).applyAll (c.settings file)).build

/-- What the request of a conversion leads to. -/
def Conversion.respond (contents : String → Option String) (c : Conversion) : Except Failure Response := do
  let file ← loadSettings contents c.config
  let converter ← c.converter file
  let document ← during ("Failed to convert " ++ c.input) .conversion (converter.convertInput contents (.file c.input))
  pure (deliver c.output (document.render (layoutOf (c.pretty || file.pretty))))

/-! ### Documents -/

/-- The document that a file holds. -/
def loadDocument (contents : String → Option String) (path : String) : Except Failure Document := do
  let text ← fileText contents "Failed to read file: " path
  during ("Not a segrob document: " ++ path) .document (Document.ofText text)

/-- What the request of a migration leads to. -/
def Migration.respond (contents : String → Option String) (m : Migration) : Except Failure Response := do
  let document ← loadDocument contents m.input
  pure (deliver m.output ((document.withSchema m.schema).render (layoutOf m.pretty)))

/-- A text of lines. -/
def linesText (lines : List String) : String := String.join (lines.map (· ++ "\n"))

/-- What the request of a check leads to. -/
def respondValidate (contents : String → Option String) (path : String) : Except Failure Response := do
  let document ← loadDocument contents path
  match document.violations with
  | [] =>
    pure <| .shown <| linesText [
      "✓ Document is valid: " ++ path,
      s!"  {document.schema.name} schema, {document.sentenceCount} sentences, {document.recordCount} tokens"]
  | violations =>
    pure <| .refused
      (linesText (("✗ Document is invalid: " ++ path) :: violations.map fun v => "  " ++ v.message))
      ⟨.violations path violations.length, []⟩

/-! ### Lists -/

/-- A text with spaces behind it, up to a width. -/
def padded (width : Nat) (s : String) : String := s ++ String.ofList (List.replicate (width - s.length) ' ')

/-- The line of a pipeline: its name, its version, its schema and its description. -/
def pipelineLine (pipeline : Pipeline) : String :=
  let profile := pipeline.profile
  " ".intercalate [
    padded 8 pipeline.name, padded 8 profile.defaultVersion, padded 8 profile.schema.name, profile.description]

/-! ### All requests -/

/-- What a request leads to, given the texts of files. -/
def respond (contents : String → Option String) : Request → Response
  | .convert c => settle (c.respond contents)
  | .validate input => settle (respondValidate contents input)
  | .migrate m => settle (m.respond contents)
  | .listPipelines => .shown (linesText (Pipeline.all.map pipelineLine))
  | .listSchemas => .shown (linesText (Schema.all.map Schema.name))
where
  /-- A failure shows nothing. -/
  settle : Except Failure Response → Response
    | .ok response => response
    | .error failure => .refused "" failure

/-- The files that a request reads. -/
def Request.inputs : Request → List String
  | .convert c => c.config.toList ++ [c.input]
  | .validate input => [input]
  | .migrate m => [m.input]
  | .listPipelines | .listSchemas => []

/-- What a request did. -/
structure Outcome where
  /-- The text on standard output. -/
  stdout : String
  /-- What went wrong, if anything. -/
  failure : Option Failure
  files : Files

/-- The failure of writing a file. -/
def writeFailure (path : String) : Failure := ⟨.file, ["Failed to write output file: " ++ path]⟩

/-- Carries a response out. -/
def Files.perform (files : Files) : Response → Outcome
  | .shown text => ⟨text, none, files⟩
  | .refused text failure => ⟨text, some failure, files⟩
  | .saved path text =>
    match files.write? path text with
    | some after => ⟨"", none, after⟩
    | none => ⟨"", some (writeFailure path), files⟩

/-- Carries a request out. -/
def Files.execute (files : Files) (request : Request) : Outcome :=
  files.perform (respond files.readText? request)

/-- Carries a command line out, if it makes a request. -/
def Files.run? (files : Files) (args : List String) : Option Outcome := (Request.ofArguments? args).map files.execute

def Outcome.code (o : Outcome) : Nat := if o.failure.isSome then 1 else 0

end WordRecords.Command
