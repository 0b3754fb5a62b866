import WordRecords.Proofs.Assembly
import WordRecords.Proofs.Command.Outcome
import WordRecords.Proofs.Document.Schema

/-!
# Chains of migrations

A document may be stored anew many times, where each run reads the file that the one before wrote (`Files.Chain`). All
runs succeed, and the last file is what a single run would have made of the first one (`runAll_chain`): the schemas and
layouts in between leave no trace.

Writing a file makes no directory. All paths of a chain therefore lead, at any time, where they led at its beginning,
and the induction follows the chain while the files change. Numbers of sentences have 64 bits, so that a document with
more sentences than that has no grouped form to be read again.
-/

namespace WordRecords.Command

/-- Carries command lines out one after the other, if they all make requests. -/
def Files.runAll? (files : Files) : List (List String) → Option (List Outcome)
  | [] => some []
  | args :: later => do
    let outcome ← files.run? args
    let outcomes ← outcome.files.runAll? later
    pure (outcome :: outcomes)

/-- Command lines of migrations, of which the first reads a given file, each later one the file that the one before
writes, and the last one is given. All of them write files. -/
inductive Files.Chain (files : Files) : String → List (List String) → Migration → Prop
  /-- A single migration. -/
  | last {path out : String} {args : List String} {m : Migration}
      (hargs : Request.ofArguments? args = some (.migrate m)) (hin : files.place? m.input = files.place? path)
      (hout : m.output = some out) (hw : files.Writable out) : Chain files path [args] m
  /-- A migration in front of others. -/
  | more {path out : String} {args : List String} {m final : Migration} {later : List (List String)}
      (hargs : Request.ofArguments? args = some (.migrate m)) (hin : files.place? m.input = files.place? path)
      (hout : m.output = some out) (hw : files.Writable out) (hlater : Chain files out later final) :
      Chain files path (args :: later) final

/-! ### One migration -/

theorem loadDocument_eq_ok_iff {contents : String → Option String} {path : String} {doc : Document} :
    loadDocument contents path = .ok doc ↔ ∃ text, contents path = some text ∧ Document.ofText text = .ok doc := by
  have hfile : ∀ text, fileText contents "Failed to read file: " path = .ok text ↔ contents path = some text := by
    intro text
    rw [fileText.eq_def]
    cases contents path with
    | some _ => simp
    | none => simp
  simp only [loadDocument, bind_eq_ok_iff, hfile, during_eq_ok_iff]

/-- What a file holds after a migration. -/
def Migration.written (m : Migration) (doc : Document) : String := (doc.withSchema m.schema).render (layoutOf m.pretty)

/-- A migration of a file that holds a document writes the document to another one. -/
theorem run_migrate {files : Files} {args : List String} {m : Migration} {text out : String} {doc : Document}
    (hargs : Request.ofArguments? args = some (.migrate m)) (htext : files.readText? m.input = some text)
    (hdoc : Document.ofText text = .ok doc) (hout : m.output = some out) (hw : files.Writable out) :
    ∃ after, files.run? args = some ⟨"", none, after⟩ ∧ after.readText? out = some (m.written doc) ∧
      ∀ d, after.isDirectory d = files.isDirectory d := by
  obtain ⟨after, hafter⟩ := hw.exists_write? (m.written doc)
  refine ⟨after, ?_, (Files.saved_of_write? hafter).written, Files.isDirectory_of_write? hafter⟩
  have hmakes := Request.Makes.migrate (loadDocument_eq_ok_iff.2 ⟨text, htext, hdoc⟩)
  have hrespond : respond files.readText? (.migrate m) = .saved out (m.written doc) := by
    rw [respond_of_makes hmakes, Request.output, hout]
    rfl
  rw [Files.run?, hargs, Option.map_some, Files.execute, hrespond, Files.perform, hafter]

/-! ### Many migrations -/

/-- Along a chain all runs succeed, and the last one writes what it would have made of the first file. -/
theorem exists_runAll? {files : Files} {path : String} {lines : List (List String)} {final : Migration}
    (h : files.Chain path lines final) {now : Files} (hnow : ∀ d, now.isDirectory d = files.isDirectory d)
    {text : String} {doc : Document} (htext : now.readText? path = some text) (hdoc : Document.ofText text = .ok doc)
    (hn : doc.sentenceCount ≤ countLimit) :
    ∃ outcomes, now.runAll? lines = some outcomes ∧ (∀ o ∈ outcomes, o.code = 0 ∧ o.stdout = "") ∧
      ∃ o ∈ outcomes.getLast?, ∃ out ∈ final.output, o.files.readText? out = some (final.written doc) := by
  induction h generalizing now text doc with
  | last hargs hin hout hw =>
    rw [← Files.place?_congr hnow, ← Files.place?_congr hnow] at hin
    obtain ⟨after, hrun, hwritten, -⟩ :=
      run_migrate hargs ((Files.readText?_of_place? hin).trans htext) hdoc hout (hw.congr hnow)
    refine ⟨[⟨"", none, after⟩], ?_, by simp [Outcome.code], _, rfl, _, hout, hwritten⟩
    rw [Files.runAll?, hrun]
    rfl
  | @more path out args m final later hargs hin hout hw _ ih =>
    rw [← Files.place?_congr hnow, ← Files.place?_congr hnow] at hin
    obtain ⟨after, hrun, hwritten, hafter⟩ :=
      run_migrate hargs ((Files.readText?_of_place? hin).trans htext) hdoc hout (hw.congr hnow)
    -- the next run reads what was written, and makes of it what it would have made of the document itself
    have hread : Document.ofText (m.written doc) = .ok (doc.withSchema m.schema) :=
      Document.ofText_render ((Document.ofText_inRange hdoc).withSchema hn _) _
    have hsame : final.written (doc.withSchema m.schema) = final.written doc := by
      rw [Migration.written, Document.withSchema_withSchema, Migration.written]
    obtain ⟨outcomes, hall, hcodes, o, ho, hlast⟩ :=
      ih (fun d => (hafter d).trans (hnow d)) hwritten hread (by rwa [Document.sentenceCount_withSchema])
    rw [hsame] at hlast
    refine ⟨⟨"", none, after⟩ :: outcomes, ?_, ?_, o, ?_, hlast⟩
    · rw [Files.runAll?, hrun, Option.bind_eq_bind, Option.bind_some, hall]
      rfl
    · exact List.forall_mem_cons.2 ⟨⟨rfl, rfl⟩, hcodes⟩
    · rw [List.getLast?_cons, Option.mem_def.1 ho]
      rfl

/-- **Migrations leave no trace of one another.** Where each run reads the file that the one before wrote, all runs
succeed, and the last file holds the document of the first one, rendered in the last schema and layout. It reads back
with the same labels and sentences, and numbered sentences are numbered by their positions. -/
theorem runAll_chain {files : Files} {path text : String} {doc : Document} {lines : List (List String)}
    {final : Migration} (hchain : files.Chain path lines final) (htext : files.readText? path = some text)
    (hdoc : Document.ofText text = .ok doc) (hn : doc.sentenceCount ≤ countLimit) :
    ∃ outcomes, files.runAll? lines = some outcomes ∧ (∀ o ∈ outcomes, o.code = 0 ∧ o.stdout = "") ∧
      (∃ o ∈ outcomes.getLast?, ∃ out ∈ final.output,
        o.files.readText? out = some ((doc.withSchema final.schema).render (layoutOf final.pretty))) ∧
      ∃ stored, Document.ofText ((doc.withSchema final.schema).render (layoutOf final.pretty)) = .ok stored ∧
        stored.schema = final.schema ∧ stored.labels = doc.labels ∧ stored.sentences = doc.sentences ∧
        ∀ ss, stored.body = .grouped ss → ss.map Sentence.id = List.range ss.length := by
  obtain ⟨outcomes, hall, hcodes, hlast⟩ := exists_runAll? hchain (fun _ => rfl) htext hdoc hn
  exact ⟨outcomes, hall, hcodes, hlast, doc.withSchema final.schema,
    Document.ofText_render ((Document.ofText_inRange hdoc).withSchema hn _) _, Body.schema_ofSentences _ _, rfl,
    doc.sentences_withSchema _, fun _ => ids_ofSentences⟩

/-- A document with two sentences of the same number, one of them written as a list of its fields. -/
def twinFiles : Files :=
  ⟨[(["d.json"], .text "\x7b \"sentences\": [[7, []],
    \x7b\"tokens\": [[5,\"P\",\"P\",\"x\",0,\"a\",0,0,\"a\"]], \"id\": 7\x7d], \"labels\": []\x7d")]⟩

def twinDocument : Document := ⟨[], .grouped [⟨7, []⟩, ⟨7, [⟨5, "P", "P", "x", 0, "a", 0, 0, "a"⟩]⟩]⟩

/-- The document is stored flat and indented in another file, and grouped in that one's place. -/
def twinLines : List (List String) :=
  [["migrate", "d.json", "--schema=flat", "-o", "./e.json", "--pretty"], ["migrate", "e.json", "-oe.json"]]

/-- What the second file holds in the end. -/
def twinText : String :=
  "\x7b\"labels\":[],\"sentences\":[\x7b\"id\":0,\"tokens\":[]\x7d,\x7b\"id\":1,\"tokens\":[\x7b\"id\":5," ++
  "\"pos\":\"P\",\"tag\":\"P\",\"dep\":\"x\",\"head\":0,\"text\":\"a\",\"idx\":0,\"index\":0," ++
  "\"lemma\":\"a\"\x7d]\x7d]\x7d\n"

theorem chain_twinLines : twinFiles.Chain "d.json" twinLines ⟨"e.json", .grouped, some "e.json", false⟩ := by
  have hplace : ∀ path ∈ ["./e.json", "e.json"], twinFiles.place? path = some ["e.json"] := by decide +kernel
  have hw : ∀ path ∈ ["./e.json", "e.json"], twinFiles.Writable path := fun path hpath =>
    ⟨["e.json"], hplace path hpath, by decide, by decide⟩
  have hin : twinFiles.place? "e.json" = twinFiles.place? "./e.json" :=
    (hplace _ (by simp)).trans (hplace _ (by simp)).symm
  exact .more (m := ⟨"d.json", .flat, some "./e.json", true⟩) rfl rfl rfl (hw _ (by simp))
    (.last rfl hin rfl (hw _ (by simp)))

theorem runAll_twinLines :
    twinFiles.Chain "d.json" twinLines ⟨"e.json", .grouped, some "e.json", false⟩ ∧
      ∃ text, twinFiles.readText? "d.json" = some text ∧ Document.ofText text = .ok twinDocument ∧
        twinDocument.sentenceCount ≤ countLimit ∧
        ∃ outcomes, twinFiles.runAll? twinLines = some outcomes ∧ (∀ o ∈ outcomes, o.code = 0 ∧ o.stdout = "") ∧
          ∃ o ∈ outcomes.getLast?, o.files.readText? "e.json" = some twinText := by
  have hread : loadDocument twinFiles.readText? "d.json" = .ok twinDocument := eq_ok_of_toOption (by decide +kernel)
  obtain ⟨text, htext, hdoc⟩ := loadDocument_eq_ok_iff.1 hread
  have hn : twinDocument.sentenceCount ≤ countLimit := by decide
  have hfinal : (twinDocument.withSchema .grouped).render (layoutOf false) = twinText := by decide +kernel
  obtain ⟨outcomes, hall, hcodes, ⟨o, ho, out, ⟨⟩, hwritten⟩, -⟩ := runAll_chain chain_twinLines htext hdoc hn
  rw [hfinal] at hwritten
  exact ⟨chain_twinLines, text, htext, hdoc, hn, outcomes, hall, hcodes, o, ho, hwritten⟩

end WordRecords.Command
