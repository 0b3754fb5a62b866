import WordRecords.Json.Escape

/-!
# From values to texts

`Node.render` writes a value without blanks, or with every item of a container on a line of its own, two spaces deeper
than the container. An empty container is written without blanks either way.
-/

namespace WordRecords.Json

/-- How the parts of a text are laid out. -/
inductive Layout
  /-- Without blanks. -/
  | compact
  /-- An item on every line. -/
  | indented
deriving DecidableEq, Repr

/-- What stands in front of an item `depth` containers deep. -/
def Layout.lead (layout : Layout) (depth : Nat) : List Char :=
  match layout with
  | .compact => []
  | .indented => '\n' :: List.replicate (2 * depth) ' '

/-- What stands between a name and its value. -/
def Layout.colon : Layout → List Char
  | .compact => [':']
  | .indented => [':', ' ']

/-- A container with the texts of its items. -/
def Layout.container (layout : Layout) (depth : Nat) (opening closing : Char) : List (List Char) → List Char
  | [] => [opening, closing]
  | items =>
    opening :: List.intercalate [','] (items.map (layout.lead (depth + 1) ++ ·)) ++ layout.lead depth ++ [closing]

/-- A value that is no container. -/
def Scalar.render : Scalar → List Char
  | .null => ['n', 'u', 'l', 'l']
  | .bool true => ['t', 'r', 'u', 'e']
  | .bool false => ['f', 'a', 'l', 's', 'e']
  | .integer n => if n < 0 then '-' :: Nat.toDigits 10 n.natAbs else Nat.toDigits 10 n.natAbs
  | .decimal => []
  | .text s => writeString s

mutual

/-- The text of a value inside `depth` containers. Only values with all their contents have one. -/
def Node.render (layout : Layout) (depth : Nat) : Node → List Char
  | .scalar contents => (contents.map Scalar.render).getD []
  | .array items _ => layout.container depth '[' ']' (Node.renderItems layout (depth + 1) items)
  | .object members _ => layout.container depth '\x7b' '\x7d' (Node.renderMembers layout (depth + 1) members)
  | .broken _ => []

/-- The texts of the items of a list. -/
def Node.renderItems (layout : Layout) (depth : Nat) : List Node → List (List Char)
  | [] => []
  | item :: rest => item.render layout depth :: Node.renderItems layout depth rest

/-- The texts of the members of an object. -/
def Node.renderMembers (layout : Layout) (depth : Nat) : List (Option String × Node) → List (List Char)
  | [] => []
  | (name, value) :: rest =>
    (writeString (name.getD "") ++ layout.colon ++ value.render layout depth) ::
      Node.renderMembers layout depth rest

end

/-- A string as a value. -/
def Node.ofString (s : String) : Node := .scalar (some (.text s))

/-- A count as a value. -/
def Node.ofNat (n : Nat) : Node := .scalar (some (.integer n))

/-- A list as a value. -/
def Node.ofList (items : List Node) : Node := .array items none

/-- An object as a value. -/
def Node.ofMembers (members : List (String × Node)) : Node :=
  .object (members.map fun (name, value) => (some name, value)) none

end WordRecords.Json
