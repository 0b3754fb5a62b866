/-!
# Outlines of JSON texts

A `Node` is what a JSON text says, as far as it can be read: values in their order, and the place at which the grammar
breaks off, if it does. A reader that wants a certain shape walks through the outline and reports what it meets first,
a value of another shape or the break.

A text can be read in two ways. *Reading* a value asks for its contents, *skipping* one asks for its grammar only. A
number too large for a double and an escape without a character are grammatical and have no contents.
-/

namespace WordRecords.Json

/-- Why a text is not JSON. -/
inductive Fault
  /-- The text ends before the value is complete. -/
  | endsEarly
  /-- A character is out of place. -/
  | malformed
deriving DecidableEq, Repr

/-- A place where the grammar breaks off, as it is met when the value there is read and when it is skipped. -/
structure Break where
  read : Fault
  skipped : Fault
deriving DecidableEq, Repr

/-- A break that reading and skipping meet alike. -/
def Break.both (f : Fault) : Break := ⟨f, f⟩

/-- The contents of a value that is no container. -/
inductive Scalar
  | null
  | bool (b : Bool)
  /-- A number written without fraction and exponent, from -2^63 up to 2^64 - 1. -/
  | integer (n : Int)
  /-- Any other number. -/
  | decimal
  | text (s : String)
deriving DecidableEq, Repr

/-- The outline of a value. A container holds what was read of it, and the break inside it, if there is one. -/
inductive Node
  /-- A value that is no container; without contents when it can only be skipped. -/
  | scalar (contents : Option Scalar)
  /-- A list. -/
  | array (items : List Node) (stop : Option Break)
  /-- An object: its members in order, each name with its value. -/
  | object (members : List (Option String × Node)) (stop : Option Break)
  /-- A place where no value could be made out. -/
  | broken (at0 : Break)

mutual

/-- What skipping a value reports, if anything. -/
def Node.skipFault? : Node → Option Fault
  | .scalar _ => none
  | .array items stop => (Node.skipItems? items).or (stop.map Break.skipped)
  | .object members stop => (Node.skipMembers? members).or (stop.map Break.skipped)
  | .broken b => some b.skipped

/-- What skipping the items of a list reports. -/
def Node.skipItems? : List Node → Option Fault
  | [] => none
  | item :: rest => (Node.skipFault? item).or (Node.skipItems? rest)

/-- What skipping the members of an object reports. -/
def Node.skipMembers? : List (Option String × Node) → Option Fault
  | [] => none
  | (_, value) :: rest => (Node.skipFault? value).or (Node.skipMembers? rest)

end

/-- The number of containers that may be open at once in a value that is read. -/
def depthLimit : Nat := 127

mutual

/-- What reading a whole value, of whatever shape, reports when `depth` containers are open around it. -/
def Node.readFault? (depth : Nat) : Node → Option Fault
  | .scalar (some _) => none
  | .scalar none => some .malformed
  | .array items stop =>
    if depth < depthLimit then (Node.readItems? (depth + 1) items).or (stop.map Break.read)
    else some .malformed
  | .object members stop =>
    if depth < depthLimit then (Node.readMembers? (depth + 1) members).or (stop.map Break.read)
    else some .malformed
  | .broken b => some b.read

/-- What reading the items of a list reports. -/
def Node.readItems? (depth : Nat) : List Node → Option Fault
  | [] => none
  | item :: rest => (Node.readFault? depth item).or (Node.readItems? depth rest)

/-- What reading the members of an object reports. A name is read before its value. -/
def Node.readMembers? (depth : Nat) : List (Option String × Node) → Option Fault
  | [] => none
  | (none, _) :: _ => some .malformed
  | (some _, value) :: rest => (Node.readFault? depth value).or (Node.readMembers? depth rest)

end

end WordRecords.Json
