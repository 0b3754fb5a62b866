import WordRecords.Toml.Quoted
import WordRecords.Toml.Scalar

/-!
# From TOML texts to tables

A text is a list of statements, one a line: headings of tables, and values given to keys of the table whose heading
came last. `parse?` reads them one after the other; a text with a fault has no table at all.
-/

namespace WordRecords.Toml

/-- The text behind a comment, if one begins it. -/
def skipComment (cs : List Char) : List Char :=
  match cs with
  | '#' :: rest => rest.dropWhile isPlain
  | _ => cs

/-- A text without the blanks, comments and line breaks in front. The first argument bounds the number of lines. -/
def skipLines : Nat → List Char → List Char
  | 0, cs => cs
  | fuel + 1, cs =>
    match lineBreak? (skipComment (skipBlank cs)) with
    | some rest => skipLines fuel rest
    | none => skipComment (skipBlank cs)

/-- The greatest number of parts of a key, and the greatest depth of lists and tables within a value. -/
def nestingLimit : Nat := 80

/-! ### Keys -/

/-- Whether a character may stand in a key without quotes. -/
def isKeyChar (c : Char) : Bool := c.isAlphanum || c == '_' || c == '-'

/-- A part of a key, with the text behind it. -/
def scanKeyPart (cs : List Char) : Option (String × List Char) :=
  match scanLine? cs with
  | some (part, rest) => some (String.ofList part, rest)
  | none =>
    let part := cs.takeWhile isKeyChar
    if part = [] then none else some (String.ofList part, cs.dropWhile isKeyChar)

/-- A key of at most so many parts, which stand between dots, with the text behind it: the path of its table, and its
last part. -/
def scanParts : Nat → List Char → Option ((List String × String) × List Char)
  | 0, _ => none
  | room + 1, cs => do
    let (part, rest) ← scanKeyPart (skipBlank cs)
    match skipBlank rest with
    | '.' :: rest =>
      let ((path, last), rest) ← scanParts room rest
      pure ((part :: path, last), rest)
    | rest => pure (([], part), rest)

/-- A key, with the text behind it. -/
def scanKey (cs : List Char) : Option ((List String × String) × List Char) := scanParts nestingLimit cs

/-! ### Values -/

mutual

/-- A value, with the text behind it. The first argument bounds the number of steps, and the second the depth of lists
and tables. -/
def scanNested : Nat → Nat → List Char → Option (Value × List Char)
  | 0, _, _ => none
  | fuel + 1, room, cs =>
    match cs with
    | [] => none
    | c :: rest =>
      if c = '"' ∨ c = '\'' then (scanQuoted? (c :: rest)).map fun (s, rest) => (.text (String.ofList s), rest)
      else if c = '[' then
        match room with
        | 0 => none
        | room + 1 => (scanItems fuel room rest).map fun (items, rest) => (.list false items, rest)
      else if c = '\x7b' then
        match room with
        | 0 => none
        | room + 1 => (scanEntries fuel room [] rest).map fun (entries, rest) => (.table .inline entries, rest)
      else scanBare (c :: rest)

/-- The items of a list behind its opening bracket. A comma may follow the last one. -/
def scanItems : Nat → Nat → List Char → Option (List Value × List Char)
  | 0, _, _ => none
  | fuel + 1, room, cs =>
    match skipLines cs.length cs with
    | ']' :: rest => some ([], rest)
    | cs => do
      let (item, rest) ← scanNested fuel room cs
      match skipLines rest.length rest with
      | ']' :: rest => pure ([item], rest)
      | ',' :: rest =>
        let (items, rest) ← scanItems fuel room rest
        pure (item :: items, rest)
      | _ => none

/-- The entries of a table between braces after those read already. A comma may follow the last one, and line breaks
may stand wherever they split no key. -/
def scanEntries : Nat → Nat → Entries → List Char → Option (Entries × List Char)
  | 0, _, _, _ => none
  | fuel + 1, room, entries, cs =>
    match skipLines cs.length cs with
    | '\x7d' :: rest => some (entries, rest)
    | cs => do
      let ((path, key), rest) ← scanKey cs
      match skipLines rest.length rest with
      | '=' :: rest =>
        let (value, rest) ← scanNested fuel room (skipLines rest.length rest)
        let (_, entries) ← assign path key value (.inline, entries)
        match skipLines rest.length rest with
        | '\x7d' :: rest => pure (entries, rest)
        | ',' :: rest => scanEntries fuel room entries rest
        | _ => none
      | _ => none

end

/-- A value, with the text behind it. -/
def scanValue (cs : List Char) : Option (Value × List Char) := scanNested (4 * cs.length + 4) nestingLimit cs

/-! ### Statements -/

inductive Statement
  /-- The heading of a table. -/
  | table (path : List String) (key : String)
  /-- The heading of one more table of a list. -/
  | item (path : List String) (key : String)
  /-- A value for a key. -/
  | assign (path : List String) (key : String) (value : Value)

/-- A key between the brackets of a heading. -/
def scanHeading (closing : List Char) (cs : List Char) : Option ((List String × String) × List Char) := do
  let (key, rest) ← scanKey cs
  if closing.isPrefixOf rest then pure (key, rest.drop closing.length) else none

/-- A statement, with the text behind it. -/
def scanStatement (cs : List Char) : Option (Statement × List Char) :=
  match cs with
  | '[' :: '[' :: rest => (scanHeading [']', ']'] rest).map fun ((path, key), rest) => (.item path key, rest)
  | '[' :: rest => (scanHeading [']'] rest).map fun ((path, key), rest) => (.table path key, rest)
  | _ => do
    let ((path, key), rest) ← scanKey cs
    match rest with
    | '=' :: rest =>
      let (value, rest) ← scanValue (skipBlank rest)
      pure (.assign path key value, rest)
    | _ => none

/-- All statements of a text. The first argument bounds their number. -/
def scanStatements : Nat → List Char → Option (List Statement)
  | 0, _ => none
  | fuel + 1, cs =>
    match skipLines (cs.length + 1) cs with
    | [] => some []
    | cs => do
      let (statement, rest) ← scanStatement cs
      match skipComment (skipBlank rest) with
      | [] => pure [statement]
      | rest =>
        let rest ← lineBreak? rest
        let later ← scanStatements fuel rest
        pure (statement :: later)

/-! ### Tables -/

/-- The whole table so far, and the path of the table whose heading came last. -/
structure Progress where
  root : Table
  /-- The path of the last heading. -/
  heading : List String

/-- What one statement does. -/
def Progress.step (p : Progress) : Statement → Option Progress
  | .table path key => do
    let root ← descend false (openTable key) path p.root
    pure ⟨root, path ++ [key]⟩
  | .item path key => do
    let root ← descend false (openItem key) path p.root
    pure ⟨root, path ++ [key]⟩
  | .assign path key value => do
    let root ← descend false (assign path key value) p.heading p.root
    pure ⟨root, p.heading⟩

/-- The text behind a byte-order mark. -/
def skipMark (cs : List Char) : List Char :=
  match cs with
  | c :: rest => if c.toNat = 0xfeff then rest else c :: rest
  | [] => []

/-- The table that a text describes. -/
def parse? (text : String) : Option Entries := do
  let cs := skipMark text.toList
  let statements ← scanStatements (cs.length + 1) cs
  let done ← statements.foldlM Progress.step ⟨(.headed, []), []⟩
  pure done.root.2

end WordRecords.Toml
