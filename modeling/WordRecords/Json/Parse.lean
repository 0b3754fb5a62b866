import WordRecords.Json.Escape
import WordRecords.Json.Number

/-!
# From texts to outlines

`Node.ofText` finds the outline of a JSON text. It never fails: a text that is no JSON has an outline with a break.
-/

namespace WordRecords.Json

/-- The characters that may stand between the tokens of a text. -/
def isBlank (c : Char) : Bool := c = ' ' || c = '\n' || c = '\t' || c = '\r'

/-- A text without its leading blanks. -/
def skipBlank (cs : List Char) : List Char := cs.dropWhile isBlank

/-- An outline, and the text behind the value if the value is complete. -/
abbrev Parsed (α : Type) := α × Option (List Char)

/-- A value that cannot be made out. -/
def Parsed.broken (b : Break) : Parsed Node := (.broken b, none)

/-- The rest of a word whose first letter decided what it is. -/
def parseWord (word : List Char) (value : Scalar) (cs : List Char) : Parsed Node :=
  match word, cs with
  | [], _ => (.scalar (some value), some cs)
  | _ :: _, [] => .broken (.both .endsEarly)
  | w :: word, c :: cs => if c = w then parseWord word value cs else .broken (.both .malformed)

/-- A break in a string: reading may come upon an escape without a character first. -/
def stringBreak (cs : List Char) (skipped : Fault) : Break :=
  match readString 0 cs with
  | .error f => ⟨f, skipped⟩
  | .ok _ => .both skipped

/-- The contents of a string, if all its escapes denote characters. -/
def stringContents? (cs : List Char) : Option String :=
  match readString 0 cs with
  | .error _ => none
  | .ok s => some (String.ofList s)

/-- A string, behind its opening quote. -/
def parseString (cs : List Char) : Parsed Node :=
  match skipString 0 cs with
  | .error f => .broken (stringBreak cs f)
  | .ok rest => (.scalar ((stringContents? cs).map .text), some rest)

def parseNumber (cs : List Char) : Parsed Node :=
  match scanNumeral cs with
  | .error b => .broken b
  | .ok (n, rest) => (.scalar n.contents, some rest)

/-- The items of a list or the members of an object, with the break that ends them early. -/
abbrev Listed (α : Type) := Parsed (List α × Option Break)

/-- Nothing more in a container, because of a break. -/
def Listed.stop {α : Type} (b : Break) : Listed α := (([], some b), none)

/-- One more item in front. -/
def Listed.cons {α : Type} (a : α) (l : Listed α) : Listed α := ((a :: l.1.1, l.1.2), l.2)

/-- What stands behind an item: a comma and its place, the closing bracket, or something else. -/
inductive Separator
  | comma (rest : List Char)
  | close (rest : List Char)
  | broken (b : Break)

/-- What separates the items of a container that `close` ends. -/
def separator (close : Char) (cs : List Char) : Separator :=
  match skipBlank cs with
  | [] => .broken (.both .endsEarly)
  | c :: rest =>
    if c = close then .close rest
    else if c = ',' then .comma rest
    else .broken (.both .malformed)

mutual

/-- The value in front of a text. The first argument bounds the number of steps. -/
def parseValue : Nat → List Char → Parsed Node
  | 0, _ => .broken (.both .endsEarly)
  | fuel + 1, cs =>
    match skipBlank cs with
    | [] => .broken (.both .endsEarly)
    | c :: rest =>
      if c = '"' then parseString rest
      else if c = '[' then
        let ((items, stop), rest) := parseFirstItem fuel rest
        (.array items stop, rest)
      else if c = '\x7b' then
        let ((members, stop), rest) := parseFirstMember fuel rest
        (.object members stop, rest)
      else if c = '-' ∨ c.isDigit then parseNumber (c :: rest)
      else if c = 'n' then parseWord ['u', 'l', 'l'] .null rest
      else if c = 't' then parseWord ['r', 'u', 'e'] (.bool true) rest
      else if c = 'f' then parseWord ['a', 'l', 's', 'e'] (.bool false) rest
      else .broken (.both .malformed)

/-- The items of a list behind its opening bracket. -/
def parseFirstItem : Nat → List Char → Listed Node
  | 0, _ => .stop (.both .endsEarly)
  | fuel + 1, cs =>
    match skipBlank cs with
    | [] => .stop (.both .endsEarly)
    | c :: rest => if c = ']' then (([], none), some rest) else parseItem fuel (c :: rest)

/-- The items of a list, of which there is one at least. A closing bracket behind a comma is no item. -/
def parseItem : Nat → List Char → Listed Node
  | 0, _ => .stop (.both .endsEarly)
  | fuel + 1, cs =>
    match parseValue fuel cs with
    | (item, none) => (([item], none), none)
    | (item, some rest) =>
      .cons item <| match separator ']' rest with
        | .broken b => .stop b
        | .close rest => (([], none), some rest)
        | .comma rest =>
          match skipBlank rest with
          | ']' :: _ => .stop (.both .malformed)
          | rest => parseItem fuel rest

/-- The members of an object behind its opening brace. -/
def parseFirstMember : Nat → List Char → Listed (Option String × Node)
  | 0, _ => .stop (.both .endsEarly)
  | fuel + 1, cs =>
    match skipBlank cs with
    | [] => .stop (.both .endsEarly)
    | c :: rest => if c = '\x7d' then (([], none), some rest) else parseMember fuel (c :: rest)

/-- The members of an object, of which there is one at least. -/
def parseMember : Nat → List Char → Listed (Option String × Node)
  | 0, _ => .stop (.both .endsEarly)
  | fuel + 1, cs =>
    match skipBlank cs with
    | [] => .stop (.both .endsEarly)
    | c :: name =>
      if c ≠ '"' then .stop (.both .malformed)
      else match skipString 0 name with
        | .error f => .stop (stringBreak name f)
        | .ok rest =>
          match parseMemberValue fuel rest with
          | (value, none) => (([(stringContents? name, value)], none), none)
          | (value, some rest) =>
            .cons (stringContents? name, value) <| match separator '\x7d' rest with
              | .broken b => .stop b
              | .close rest => (([], none), some rest)
              | .comma rest => parseMember fuel rest

/-- The value of a member, from its colon on. -/
def parseMemberValue : Nat → List Char → Parsed Node
  | 0, _ => .broken (.both .endsEarly)
  | fuel + 1, cs =>
    match skipBlank cs with
    | [] => .broken (.both .endsEarly)
    | c :: rest => if c = ':' then parseValue fuel rest else .broken (.both .malformed)

end

/-- What reading reports about the text behind a value: nothing but blanks may stand there. -/
def trailingFault? : Option (List Char) → Option Fault
  | none => none
  | some rest => if skipBlank rest = [] then none else some .malformed

/-- The outline of a text, and what is wrong behind its value. Every value takes four steps at most besides the
characters it is written with. -/
def Node.ofText (text : String) : Node × Option Fault :=
  let cs := text.toList
  let (node, rest) := parseValue (4 * cs.length + 4) cs
  (node, trailingFault? rest)

end WordRecords.Json
