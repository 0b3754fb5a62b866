import WordRecords.Text.Fields

/-!
# Files

A directory as a set of files, each under the path of its components below the directory. A path is followed component
by component; every component but the last must be a directory, and nothing outside is visible.
-/

namespace WordRecords.Command

/-- The contents of a file. -/
inductive Content
  | text (s : String)
  /-- Bytes that are no text. -/
  | binary
deriving DecidableEq

/-- The text of a file, if it is one. -/
def Content.text? : Content → Option String
  | .text s => some s
  | .binary => none

/-- The files below a directory. -/
structure Files where
  /-- The files, with the components of their paths. -/
  entries : List (List String × Content)

namespace Files

/-- Whether there is a directory at a place. -/
def isDirectory (files : Files) (place : List String) : Bool :=
  place = [] || files.entries.any fun entry => place.isPrefixOf entry.1 && decide (place.length < entry.1.length)

/-- The place where components lead to from another place. -/
def follow (files : Files) : List String → List String → Option (List String)
  | place, [] => some place
  | place, c :: rest =>
    if !files.isDirectory place then none
    else if c = "" ∨ c = "." then follow files place rest
    else if c = ".." then
      if place = [] then none else follow files place.dropLast rest
    else follow files (place ++ [c]) rest

/-- The greatest number of bytes of a path. -/
def pathLimit : Nat := 4095

/-- The greatest number of bytes of a component. -/
def componentLimit : Nat := 255

/-- Whether a path leads anywhere in any directory: it holds no zero character, and neither itself nor a component is
too long. -/
def isFeasible (path : String) : Bool :=
  !path.toList.contains '\x00' && decide (path.utf8ByteSize ≤ pathLimit) &&
    (Text.splitFields '/' path).all fun c => decide (c.utf8ByteSize ≤ componentLimit)

/-- The place of a path. -/
def place? (files : Files) (path : String) : Option (List String) :=
  if !isFeasible path then none
  else
    match Text.splitFields '/' path with
    | "" :: _ => none
    | components => files.follow [] components

/-- The contents of the file at a path. -/
def read? (files : Files) (path : String) : Option Content := do
  let place ← files.place? path
  files.entries.lookup place

/-- The text of the file at a path. -/
def readText? (files : Files) (path : String) : Option String := (files.read? path).bind Content.text?

/-- The files after a text was written to a path. It replaces a file there, and fails where no file can be. -/
def write? (files : Files) (path : String) (text : String) : Option Files := do
  let place ← files.place? path
  if files.isDirectory place || !files.isDirectory place.dropLast then none
  else
    let others := files.entries.filter fun entry => entry.1 ≠ place
    some ⟨others ++ [(place, .text text)]⟩

/-- The files that are new or hold something else than before. -/
def changedSince (files before : Files) : List (List String × Content) :=
  files.entries.filter fun entry => before.entries.lookup entry.1 ≠ some entry.2

end Files

end WordRecords.Command
