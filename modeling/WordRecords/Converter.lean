import WordRecords.Assembly
import WordRecords.Labels
import WordRecords.Pipeline
import WordRecords.Text.Blank

/-!
# Conversion

A converter knows everything that the output of a pipeline does not say about the document to be made of it: the
version and the schema, the user's labels, and the source file. It is built from settings made one after the other,
where later values replace earlier ones and labels add up; what is not set comes from the pipeline's profile.
-/

namespace WordRecords

/-- Why there is no document. -/
inductive ConversionError
  /-- A unit has no offset. -/
  | missingOffset (text : String)
  /-- A file could not be read as text. -/
  | unreadable (path : String)
  /-- The output of the pipeline could not be read. -/
  | output (e : ReadError)
  /-- No pipeline has this name. -/
  | unknownPipeline (name : String)
  /-- The version holds nothing but white space. -/
  | blankVersion
deriving DecidableEq

/-- The wording of an error, as far as it does not depend on the reader of JSON or of files. -/
def ConversionError.message : ConversionError → String
  | .missingOffset text => s!"token '{text}' is missing start_char information"
  | .unreadable path => "failed to read input " ++ path
  | .output (.json _) => "invalid JSON"
  | .output (.stanza p) => "malformed stanza output: " ++ p.message
  | .output (.spacy p) => "malformed spacy output: " ++ p.message
  | .unknownPipeline name => "unknown pipeline: " ++ name
  | .blankVersion => "configuration error: pipeline version must not be empty"

/-- The pipeline of a name, or the error that there is none. -/
def Pipeline.named (name : String) : Except ConversionError Pipeline :=
  match Pipeline.ofName? name with
  | some pipeline => .ok pipeline
  | none => .error (.unknownPipeline name)

/-! ### Converters -/

/-- Everything about a document that the output of a pipeline does not say. -/
structure Converter where
  pipeline : Pipeline
  version : String
  schema : Schema
  labels : List String
  source : Option String
deriving DecidableEq

namespace Converter

/-- The labels of a document. The path stands in for the source file if none is set. -/
def labelsFor (c : Converter) (fallback : Option String) : List String :=
  buildLabels (c.source.or fallback) c.pipeline.name c.version c.labels

/-- The document that the output of the pipeline makes, under the labels for a path. -/
def convertFrom (c : Converter) (path : Option String) (text : String) : Except ConversionError Document := do
  let sentences ← (c.pipeline.read text).mapError .output
  (assemble c.schema (c.labelsFor path) sentences).mapError .missingOffset

/-- The document that the output of the pipeline makes. -/
def convert (c : Converter) (text : String) : Except ConversionError Document := c.convertFrom none text

end Converter

/-! ### Inputs -/

/-- Where the output of a pipeline comes from. -/
inductive Input
  /-- A text at hand. -/
  | text (content : String)
  /-- A file, whose path also gives labels. -/
  | file (path : String)

def Input.path? : Input → Option String
  | .text _ => none
  | .file path => some path

/-- How an input is shown: a text by its size only. -/
def Input.display : Input → String
  | .text content => s!"Text({content.utf8ByteSize} bytes)"
  | .file path => s!"File({path})"

/-- The document that an input makes, where `contents` gives the texts of files. -/
def Converter.convertInput (c : Converter) (contents : String → Option String) (input : Input) :
    Except ConversionError Document :=
  match input with
  | .text content => c.convertFrom none content
  | .file path =>
    match contents path with
    | some content => c.convertFrom (some path) content
    | none => .error (.unreadable path)

/-! ### Building -/

/-- A converter that is being set up. -/
structure Builder where
  pipeline : Pipeline
  version : Option String
  schema : Option Schema
  labels : List String
  source : Option String
deriving DecidableEq

/-- One step of setting up a converter. -/
inductive Setting
  | version (version : String)
  | schema (schema : Schema)
  | label (label : String)
  | labels (labels : List String)
  | source (path : String)

namespace Builder

def start (pipeline : Pipeline) : Builder := ⟨pipeline, none, none, [], none⟩

def apply (b : Builder) : Setting → Builder
  | .version version => { b with version := some version }
  | .schema schema => { b with schema := some schema }
  | .label label => { b with labels := b.labels ++ [label] }
  | .labels labels => { b with labels := b.labels ++ labels }
  | .source path => { b with source := some path }

def applyAll (b : Builder) (settings : List Setting) : Builder := settings.foldl apply b

/-- The converter with everything set so far. -/
def build (b : Builder) : Except ConversionError Converter :=
  let version := b.version.getD b.pipeline.profile.defaultVersion
  if Text.isBlank version then .error .blankVersion
  else .ok {
    pipeline := b.pipeline
    version := version
    schema := b.schema.getD b.pipeline.profile.schema
    labels := b.labels
    source := b.source }

end Builder

end WordRecords
