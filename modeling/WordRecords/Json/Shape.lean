import WordRecords.Json.Parse
import WordRecords.Json.Problem

/-!
# Reading values of a wanted shape

A reader takes the outline of a value and answers with what it says, or with the first problem. Records are described by
the names and readers of their fields; they are read from objects, in which the fields stand in any order among
unknown members, and from lists of all fields in order.
-/

namespace WordRecords.Json

/-! ### Plain values -/

/-- The contents of a value that is no container. -/
def readScalar : Node → Reading Scalar
  | .scalar (some s) => .ok s
  | .scalar none => .error (.fault .malformed)
  | .broken b => .error (.fault b.read)
  | .array _ _ | .object _ _ => .error (.mismatch .invalidType)

def readText (node : Node) : Reading String := do
  match ← readScalar node with
  | .text s => pure s
  | _ => throw (.mismatch .invalidType)

/-- An integer from `low` up to `high`. -/
def readInteger (low high : Int) (node : Node) : Reading Int := do
  match ← readScalar node with
  | .integer n => if low ≤ n ∧ n ≤ high then pure n else throw (.mismatch .invalidValue)
  | _ => throw (.mismatch .invalidType)

/-- A count: a natural number of 64 bits. -/
def readCount (node : Node) : Reading Nat :=
  Int.toNat <$> readInteger 0 (countLimit - 1) node

/-- A signed number of 64 bits. -/
def readSigned (node : Node) : Reading Int :=
  readInteger (-signedLimit) (signedLimit - 1) node

/-- A value that may be `null`. -/
def readOptional {α : Type} (read : Node → Reading α) : Node → Reading (Option α)
  | .scalar (some .null) => .ok none
  | node => some <$> read node

/-- What the end of a container reports. -/
def readEnd : Option Break → Reading Unit
  | none => .ok ()
  | some b => .error (.fault b.read)

/-- A list of values of one shape. -/
def readList {α : Type} (read : Node → Reading α) : Node → Reading (List α)
  | .array items stop => do
    let values ← items.mapM read
    readEnd stop
    pure values
  | node => do
    let _ ← readScalar node
    throw (.mismatch .invalidType)

/-- Any value at all, which is skipped. -/
def readSkipped (node : Node) : Reading Unit :=
  match node.skipFault? with
  | none => .ok ()
  | some f => .error (.fault f)

/-! ### Records -/

/-- The fields of a record: their order, names, kinds of contents and readers. -/
structure RecordShape (ι : Type) where
  /-- The fields, in the order in which a list gives them. -/
  fields : List ι
  name : ι → String
  Slot : ι → Type
  read : (i : ι) → Node → Reading (Slot i)
  /-- Whether a list may end before the field. -/
  mayLack : ι → Bool

namespace RecordShape

variable {ι : Type} (shape : RecordShape ι)

/-- The fields that were read so far. -/
abbrev Filling := (i : ι) → Option (shape.Slot i)

def blank : shape.Filling := fun _ => none

def field? (key : String) : Option ι := shape.fields.find? fun i => shape.name i == key

variable {shape} in
/-- One more field was read. -/
def Filling.set [DecidableEq ι] (filling : shape.Filling) (i : ι) (value : shape.Slot i) : shape.Filling :=
  fun j => if h : i = j then some (h ▸ value) else filling j

variable [DecidableEq ι]

/-- Reads the members of an object in text order. Unknown ones are skipped, and none may be known twice. -/
def readMembers (filling : shape.Filling) : List (Option String × Node) → Reading shape.Filling
  | [] => .ok filling
  | (none, _) :: _ => .error (.fault .malformed)
  | (some key, node) :: rest =>
    match shape.field? key with
    | none => do
      readSkipped node
      readMembers filling rest
    | some i =>
      if (filling i).isSome then .error (.mismatch (.duplicateField key))
      else do
        let value ← shape.read i node
        readMembers (filling.set i value) rest

/-- Reads the items of a list as the given fields. A list with more items is no list of fields. -/
def readItems (filling : shape.Filling) : List ι → List Node → Option Break → Reading shape.Filling
  | [], [], stop => do
    readEnd stop
    pure filling
  | [], _ :: _, _ => .error (.fault .malformed)
  | i :: later, [], stop => do
    readEnd stop
    if shape.mayLack i then readItems filling later [] stop else throw (.mismatch .invalidLength)
  | i :: later, node :: rest, stop => do
    let value ← shape.read i node
    readItems (filling.set i value) later rest stop

/-- Reads a record, and builds the result from its fields. -/
def readRecord {α : Type} (build : shape.Filling → Reading α) : Node → Reading α
  | .object members stop => do
    let filling ← shape.readMembers shape.blank members
    readEnd stop
    build filling
  | .array items stop => do
    let filling ← shape.readItems shape.blank shape.fields items stop
    build filling
  | node => do
    let _ ← readScalar node
    throw (.mismatch .invalidType)

variable {shape}

/-- A field that a record must have. -/
def Filling.need (filling : shape.Filling) (i : ι) : Reading (shape.Slot i) :=
  match filling i with
  | some value => .ok value
  | none => .error (.mismatch (.missingField (shape.name i)))

end RecordShape

/-! ### Whole texts -/

/-- Reads a text that holds one value and nothing else. -/
def readWhole {α : Type} (read : Node → Reading α) (text : String) : Reading α := do
  let (node, trailing) := Node.ofText text
  let value ← read node
  match trailing with
  | none => pure value
  | some f => throw (.fault f)

end WordRecords.Json
