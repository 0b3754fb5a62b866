import WordRecords.Command.Response

/-!
# The program

Reads the files that a request names, and carries out what the request leads to. Wrong arguments end with code 2,
failures with code 1.
-/

namespace WordRecords

open Command

/-- The text of a file, if there is one. -/
def loadText (path : String) : IO (Option String) := do
  try
    let bytes ← IO.FS.readBinFile path
    pure (String.fromUTF8? bytes)
  catch _ => pure none

/-- Writes a text to a file, and says whether it could. -/
def saveText (path text : String) : IO Bool := do
  try
    IO.FS.writeFile path text
    pure true
  catch _ => pure false

/-- Reports a failure. -/
def report (failure : Failure) : IO UInt32 := do
  IO.eprintln ("Error: " ++ ": ".intercalate (failure.context ++ [failure.cause.message]))
  pure 1

/-- Carries a response out. -/
def carryOut : Response → IO UInt32
  | .shown text => do
    IO.print text
    pure 0
  | .refused text failure => do
    IO.print text
    report failure
  | .saved path text => do
    if ← saveText path text then pure 0 else report (writeFailure path)

end WordRecords

open WordRecords in
/-- Runs the program on its command line. -/
def main (args : List String) : IO UInt32 := do
  match Command.Request.ofArguments? args with
  | none =>
    IO.eprintln "usage: convert FILE -p PIPELINE | validate FILE | migrate FILE | list pipelines|schemas"
    pure 2
  | some request =>
    let texts ← request.inputs.mapM fun path => do
      let text ← loadText path
      pure (path, text)
    carryOut (Command.respond (fun path => (texts.lookup path).join) request)
