import WordRecords.Json.Shape
import WordRecords.Text.Digits
import WordRecords.Text.Fields
import WordRecords.Text.Quoted

/-!
# Entries of Stanza output

Stanza writes a sentence as a list of entries. An entry describes a word, or announces a token of several words by the
range of their numbers. The number of a word is written as a number, as a list of one, or, in older releases, as a
string; a range is written as a list of two, or as a string with a hyphen.
-/

namespace WordRecords.Stanza

open Json

/-- The identification of an entry as it is written. -/
inductive NativeId
  | number (n : Nat)
  | list (ns : List Nat)
  | text (s : String)
deriving DecidableEq

/-- What an entry describes. -/
inductive EntryId
  /-- A word with its number. -/
  | word (n : Nat)
  /-- A token of the words with numbers in a range. -/
  | range (low high : Nat)
deriving DecidableEq

/-- An entry. Only its identification is always there. -/
structure Entry where
  id : NativeId
  text : Option String
  lemmaForm : Option String
  upos : Option String
  feats : Option String
  /-- The number of the governor, zero for a root. -/
  head : Option Int
  deprel : Option String
  startChar : Option Nat
  /-- Other data, in which older releases give the offset. -/
  misc : Option String
deriving DecidableEq

/-! ### Identifications -/

/-- The parts of a text before and behind its first hyphen. -/
def splitHyphen? : List Char → Option (List Char × List Char)
  | [] => none
  | c :: rest =>
    if c = '-' then some ([], rest)
    else (splitHyphen? rest).map fun (before, behind) => (c :: before, behind)

/-- What an entry with this identification describes, if it is one of the known forms. -/
def NativeId.parse? : NativeId → Option EntryId
  | .number n => some (.word n)
  | .list [n] => some (.word n)
  | .list [low, high] => some (.range low high)
  | .list _ => none
  | .text s =>
    match splitHyphen? s.toList with
    | some (low, high) => do
      let low ← Text.readSignedCount? low
      let high ← Text.readSignedCount? high
      pure (.range low high)
    | none => (Text.readSignedCount? s.toList).map .word

/-- How messages show an identification. -/
def NativeId.display : NativeId → String
  | .number n => s!"Number({n})"
  | .list ns => "List([" ++ ", ".intercalate (ns.map toString) ++ "])"
  | .text s => "Text(" ++ Text.quoted s ++ ")"

/-! ### Reading -/

/-- An identification. Its value is read whole before its form is looked at. -/
def NativeId.read (node : Node) : Reading NativeId :=
  match node.readFault? 3 with
  | some f => .error (.fault f)
  | none =>
    match (readCount node).toOption, (readList readCount node).toOption, (readText node).toOption with
    | some n, _, _ => .ok (.number n)
    | none, some ns, _ => .ok (.list ns)
    | none, none, some s => .ok (.text s)
    | none, none, none => .error (.mismatch (.noAlternative "RawId"))

inductive EntryField
  | id | text | lemmaForm | upos | feats | head | deprel | startChar | misc
deriving DecidableEq

/-- The fields of an entry, in the order of its array form. -/
def entryShape : RecordShape EntryField where
  fields := [.id, .text, .lemmaForm, .upos, .feats, .head, .deprel, .startChar, .misc]
  name
    | .id => "id"
    | .text => "text"
    | .lemmaForm => "lemma"
    | .upos => "upos"
    | .feats => "feats"
    | .head => "head"
    | .deprel => "deprel"
    | .startChar => "start_char"
    | .misc => "misc"
  Slot
    | .id => NativeId
    | .head => Option Int
    | .startChar => Option Nat
    | .text | .lemmaForm | .upos | .feats | .deprel | .misc => Option String
  read
    | .id => NativeId.read
    | .head => readOptional readSigned
    | .startChar => readOptional readCount
    | .text | .lemmaForm | .upos | .feats | .deprel | .misc => readOptional readText
  mayLack _ := false

/-- An entry. A field that is left out counts as `null`. -/
def Entry.read : Node → Reading Entry :=
  entryShape.readRecord fun f => do
    pure {
      id := ← f.need .id
      text := (f .text).join
      lemmaForm := (f .lemmaForm).join
      upos := (f .upos).join
      feats := (f .feats).join
      head := (f .head).join
      deprel := (f .deprel).join
      startChar := (f .startChar).join
      misc := (f .misc).join }

/-- The entries of all sentences that a text holds. -/
def entriesOfText (text : String) : Reading (List (List Entry)) :=
  readWhole (readList (readList Entry.read)) text

end WordRecords.Stanza
