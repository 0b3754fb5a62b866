import WordRecords.Text.Fields

/-!
# Labels of documents

A document is labelled by the parts of its source file's name, by the pipeline that analysed it, and by the user.
Files are conventionally named after title and author, with hyphens between, and the parts are taken as they come.
-/

namespace WordRecords

/-- The name of the file or directory that a path leads to: its last component, where empty components and single dots
do not count. A path that ends by going up has none. -/
def fileName? (path : String) : Option (List Char) :=
  let components := (Text.fields '/' path.toList).filter fun c => c ≠ [] ∧ c ≠ ['.']
  match components.getLast? with
  | some name => if name = ['.', '.'] then none else some name
  | none => none

/-- A name without its extension, the last dot and what follows it. A dot in front begins no extension. -/
def stemOf (name : List Char) : List Char :=
  match (Text.fields '.' name).reverse with
  | _ :: before => if before = [] ∨ before = [[]] then name else Text.joinFields '.' before.reverse
  | [] => name

/-- The name that a path leads to, without its extension. -/
def fileStem? (path : String) : Option (List Char) := (fileName? path).map stemOf

/-- The labels that the name of a source file gives: the parts between its hyphens. -/
def filenameLabels (path : String) : List String :=
  match fileStem? path with
  | some stem => (Text.fields '-' stem).map String.ofList
  | none => []

/-- The label of a pipeline. -/
def pipelineLabel (pipeline version : String) : String := pipeline ++ "-" ++ version

/-- All labels: those of the source file, if there is one, of the pipeline, and of the user, in this order. -/
def buildLabels (source : Option String) (pipeline version : String) (user : List String) : List String :=
  (source.map filenameLabels).getD [] ++ pipelineLabel pipeline version :: user

end WordRecords
