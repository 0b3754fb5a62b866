/-!
# Values of TOML texts

A TOML text is a table of values. How a table came about decides what may still be added to it: a table with a heading
of its own takes no second heading and no dotted keys from outside, an inline table takes nothing.
-/

namespace WordRecords.Toml

/-- How a table came about. -/
inductive TableKind
  /-- By a heading of its own, or as the whole text. -/
  | headed
  /-- As part of the path of another table's heading. -/
  | implied
  /-- By dotted keys. -/
  | dotted
  /-- Between braces. -/
  | inline
deriving DecidableEq

/-- A value. Of numbers and dates hardly more than the kind matters. -/
inductive Value
  | text (s : String)
  | bool (b : Bool)
  /-- A number, and whether it is one that can be held. -/
  | number (holds : Bool)
  /-- A date, a time, or both. -/
  | moment
  /-- A list: of values between brackets, or of tables under headings of the same name. -/
  | list (ofTables : Bool) (items : List Value)
  | table (kind : TableKind) (entries : List (String × Value))

mutual

/-- Whether all numbers in a value are such that can be held. -/
def Value.holds : Value → Bool
  | .text _ | .bool _ | .moment => true
  | .number holds => holds
  | .list _ items => Value.allHold items
  | .table _ entries => Value.entriesHold entries

/-- Whether all numbers in some values are such that can be held. -/
def Value.allHold : List Value → Bool
  | [] => true
  | item :: rest => Value.holds item && Value.allHold rest

/-- Whether all numbers in the values of some entries are such that can be held. -/
def Value.entriesHold : List (String × Value) → Bool
  | [] => true
  | (_, value) :: rest => Value.holds value && Value.entriesHold rest

end

/-- The entries of a table, in the order of their first mention. -/
abbrev Entries := List (String × Value)

/-- A table with how it came about. -/
abbrev Table := TableKind × Entries

def Entries.find? (entries : Entries) (key : String) : Option Value := entries.lookup key

/-- Replaces the value of a key that is there. -/
def Entries.replace (entries : Entries) (key : String) (value : Value) : Entries :=
  entries.map fun entry => if entry.1 = key then (key, value) else entry

/-- Adds the value of a key that is not there. -/
def Entries.add (entries : Entries) (key : String) (value : Value) : Entries := entries ++ [(key, value)]

/-- Changes the table at a path below a table. A list of tables on the way stands for its last table, and tables that
are missing are made. A dotted key, unlike a heading, does not lead through a headed table that is no part of a list. -/
def descend (dotted : Bool) (change : Table → Option Table) : List String → Table → Option Table
  | [], table => change table
  | key :: path, (kind, entries) =>
    match entries.find? key with
    | none => do
      let (k, es) ← descend dotted change path (if dotted then .dotted else .implied, [])
      pure (kind, entries.add key (.table k es))
    | some (.table k es) =>
      if k = .inline ∨ (dotted ∧ k = .headed) then none
      else do
        let (k, es) ← descend dotted change path (k, es)
        pure (kind, entries.replace key (.table k es))
    | some (.list true items) =>
      match items.getLast? with
      | some (.table k es) => do
        let (k, es) ← descend dotted change path (k, es)
        pure (kind, entries.replace key (.list true (items.dropLast ++ [.table k es])))
      | _ => none
    | some _ => none

/-- Gives a value to a key of a table. A table made by dotted keys is only added to by dotted keys, and any other only
by plain ones. -/
def assignKey (isDotted : Bool) (key : String) (value : Value) : Table → Option Table
  | (kind, entries) =>
    if decide (kind = .dotted) != isDotted then none
    else match entries.find? key with
      | none => some (kind, entries.add key value)
      | some _ => none

/-- Gives a value to a key, which may be dotted, below a table. -/
def assign (path : List String) (key : String) (value : Value) (table : Table) : Option Table :=
  descend true (assignKey (!path.isEmpty) key value) path table

/-- Opens the table of a heading below its parent. -/
def openTable (key : String) : Table → Option Table
  | (kind, entries) =>
    match entries.find? key with
    | none => some (kind, entries.add key (.table .headed []))
    | some (.table .implied es) => some (kind, entries.replace key (.table .headed es))
    | some _ => none

/-- Opens one more table of a list of tables below its parent. -/
def openItem (key : String) : Table → Option Table
  | (kind, entries) =>
    match entries.find? key with
    | none => some (kind, entries.add key (.list true [.table .headed []]))
    | some (.list true items) => some (kind, entries.replace key (.list true (items ++ [.table .headed []])))
    | some _ => none

end WordRecords.Toml
