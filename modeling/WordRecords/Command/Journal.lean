import WordRecords.Command.Response
import WordRecords.Journal

/-!
# Journals of requests

Of all requests only conversions keep a journal, from the moment their input is known.
-/

namespace WordRecords.Command

/-- The notes of the request of a conversion. -/
def Conversion.journal (contents : String → Option String) (c : Conversion) : List Event :=
  match loadSettings contents c.config >>= c.converter, contents c.input with
  | .ok converter, some text => converter.journal text
  | _, _ => []

/-- The notes of a request. -/
def Request.journal (contents : String → Option String) : Request → List Event
  | .convert c => c.journal contents
  | _ => []

end WordRecords.Command
