import WordRecords.Converter

/-!
# Journals

What a conversion notes while it runs: tokens of several words as they are read, the number of sentences read, lemmas
as they are split, and the number of records made. A conversion that fails has noted what came before the failure.
-/

namespace WordRecords

inductive Event
  /-- A token was read with its words. -/
  | expanded (text : String) (words : Nat)
  /-- Sentences were read. -/
  | readSentences (count : Nat) (pipeline : Pipeline)
  /-- A lemma was split. -/
  | split (text : String) (words : Nat) (lemmaForm : String)
  /-- A document was made. -/
  | assembled (records sentences : Nat) (schema : Schema)
deriving DecidableEq

/-- A note with its level. -/
def Event.line : Event → String
  | .expanded text words => s!"TRACE multi-word token '{text}' expands to {words} words"
  | .readSentences count pipeline => s!"DEBUG read {count} sentences of {pipeline.name} output"
  | .split text words form => s!"TRACE split '{text}' into {words} words from lemma '{form}'"
  | .assembled records sentences schema =>
    s!"DEBUG assembled {records} records in {sentences} sentences ({schema.name} schema)"

/-- The notes of steps in a row: those of the steps up to the first that fails, and whether all succeed. -/
def journalSteps {α : Type} (step : α → List Event × Bool) : List α → List Event × Bool
  | [] => ([], true)
  | a :: rest =>
    let (events, succeeds) := step a
    if succeeds then
      let (later, succeeds) := journalSteps step rest
      (events ++ later, succeeds)
    else (events, false)

/-! ### Reading -/

namespace Stanza

/-- What is noted about an entry once its unit was read. -/
def Entry.event? (e : Entry) (unit : SurfaceUnit) : Option Event :=
  match e.id.parse? with
  | some (.range _ _) => some (.expanded unit.text unit.decomposition.words.length)
  | _ => none

/-- The notes of reading the entries of a sentence. -/
def journalUnits : List Entry → List Event
  | [] => []
  | e :: rest =>
    match h : readUnit e rest with
    | .error _ => []
    | .ok (unit, later) =>
      have : later.length ≤ rest.length := length_readUnit h
      (e.event? unit).toList ++ journalUnits later
termination_by es => es.length

/-- The notes of reading a sentence, and whether it could be read. -/
def journalSentence (entries : List Entry) : List Event × Bool :=
  (journalUnits entries, (readSentence entries).isOk)

end Stanza

/-- The notes of reading the output of a pipeline. -/
def Pipeline.journal (pipeline : Pipeline) (text : String) : List Event :=
  match pipeline with
  | .stanza =>
    match Stanza.entriesOfText text with
    | .ok sentences => (journalSteps Stanza.journalSentence sentences).1
    | .error _ => []
  | .spacy => []

/-! ### Assembly -/

/-- What is noted about a unit whose lemma is split. -/
def SurfaceUnit.event? (unit : SurfaceUnit) : Option Event :=
  match unit.decomposition with
  | .explicit _ => none
  | .lemmaSeparated word =>
    let words := unit.flatWords.length
    if 1 < words then some (.split unit.text words word.lemmaForm) else none

/-- The notes of making the records of a unit, and whether its offset is known. -/
def SurfaceUnit.journal (unit : SurfaceUnit) : List Event × Bool :=
  if unit.offset.resolve?.isSome then (unit.event?.toList, true) else ([], false)

/-- The notes of making a document. -/
def journalAssembly (schema : Schema) (sentences : List UnitSentence) : List Event :=
  let (events, succeeds) := journalSteps (journalSteps SurfaceUnit.journal) sentences
  if succeeds then
    let records := (sentences.flatten.flatMap SurfaceUnit.flatWords).length
    events ++ [.assembled records sentences.length schema]
  else events

/-! ### Conversion -/

/-- The notes of a conversion. -/
def Converter.journal (c : Converter) (text : String) : List Event :=
  c.pipeline.journal text ++
    match c.pipeline.read text with
    | .ok sentences =>
      .readSentences sentences.length c.pipeline :: journalAssembly c.schema sentences
    | .error _ => []

end WordRecords
