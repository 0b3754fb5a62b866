import WordRecords.Json.Node

/-!
# What keeps a JSON text from being read

Either the text is no JSON, or a value has another shape than wanted. The first of the two in text order is reported.
-/

namespace WordRecords.Json

/-- How a value differs from the wanted shape. -/
inductive Mismatch
  /-- It is of another kind. -/
  | invalidType
  /-- It is a number out of range. -/
  | invalidValue
  /-- It is a list that is too short. -/
  | invalidLength
  /-- An object lacks a member. -/
  | missingField (name : String)
  /-- An object has a member twice. -/
  | duplicateField (name : String)
  /-- None of the alternatives with this name applies. -/
  | noAlternative (name : String)
deriving DecidableEq, Repr

/-- The first problem in a text. -/
inductive Problem
  /-- The text is no JSON. -/
  | fault (f : Fault)
  /-- A value has another shape than wanted. -/
  | mismatch (m : Mismatch)
deriving DecidableEq, Repr

def Mismatch.message : Mismatch → String
  | .invalidType => "invalid type"
  | .invalidValue => "invalid value"
  | .invalidLength => "invalid length"
  | .missingField name => "missing field `" ++ name ++ "`"
  | .duplicateField name => "duplicate field `" ++ name ++ "`"
  | .noAlternative name => "data did not match any variant of untagged enum " ++ name

/-- The readers of values: a result, or the first problem. -/
abbrev Reading := Except Problem

end WordRecords.Json
