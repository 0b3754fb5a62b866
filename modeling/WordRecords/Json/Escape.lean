import WordRecords.Json.Node
import WordRecords.Text.Hexadecimal

/-!
# Strings of JSON texts

A string stands between quotes, in which some characters are written as escapes. `writeString` uses escapes for quotes,
backslashes and controls only; `readString` undoes any escapes, and `skipString` finds the end of a string whose
escapes need not denote characters.
-/

namespace WordRecords.Json

/-! ### Writing -/

/-- The escape of a control character. -/
def escapeControl (c : Char) : List Char :=
  if c = '\x08' then ['\\', 'b']
  else if c = '\x0c' then ['\\', 'f']
  else if c = '\n' then ['\\', 'n']
  else if c = '\r' then ['\\', 'r']
  else if c = '\t' then ['\\', 't']
  else ['\\', 'u', '0', '0', Nat.digitChar (c.toNat / 16), Nat.digitChar (c.toNat % 16)]

/-- A character inside a string. -/
def escapeChar (c : Char) : List Char :=
  if c = '"' ∨ c = '\\' then ['\\', c]
  else if c.toNat < 0x20 then escapeControl c
  else [c]

/-- A string between quotes. -/
def writeString (s : String) : List Char :=
  '"' :: s.toList.flatMap escapeChar ++ ['"']

/-! ### Reading -/

/-- The number that the four hexadecimal digits in front of a text denote. Fewer than four bytes are too few to tell
what is wrong with them. -/
def hexQuad : List Char → Except Fault Nat
  | a :: b :: c :: d :: _ =>
    match Text.hexValue? a, Text.hexValue? b, Text.hexValue? c, Text.hexValue? d with
    | some w, some x, some y, some z => .ok (((w * 16 + x) * 16 + y) * 16 + z)
    | _, _, _, _ => .error .malformed
  | short => .error (if (String.ofList short).utf8ByteSize < 4 then .endsEarly else .malformed)

/-- The character that an escape letter other than `u` stands for. -/
def unescapeLetter? (c : Char) : Option Char :=
  if c = '"' ∨ c = '\\' ∨ c = '/' then some c
  else if c = 'b' then some '\x08'
  else if c = 'f' then some '\x0c'
  else if c = 'n' then some '\n'
  else if c = 'r' then some '\r'
  else if c = 't' then some '\t'
  else none

/-- The second half of a surrogate pair: an escape in front of the text that denotes a low surrogate. -/
def lowSurrogate : List Char → Except Fault Nat
  | [] => .error .endsEarly
  | c :: rest =>
    if c ≠ '\\' then .error .malformed
    else match rest with
      | [] => .error .endsEarly
      | u :: digits =>
        if u ≠ 'u' then .error .malformed
        else do
          let n ← hexQuad digits
          if 0xdc00 ≤ n ∧ n ≤ 0xdfff then pure n else throw .malformed

/-- The character that a numbered escape denotes, from its four digits on, and the number of characters it takes: four,
or ten for a surrogate pair. A surrogate without its partner denotes nothing. -/
def numberedEscape (digits : List Char) : Except Fault (Char × Nat) := do
  let n ← hexQuad digits
  if 0xd800 ≤ n ∧ n ≤ 0xdbff then
    let m ← lowSurrogate (digits.drop 4)
    pure (Char.ofNat (0x10000 + (n - 0xd800) * 0x400 + (m - 0xdc00)), 10)
  else if 0xdc00 ≤ n ∧ n ≤ 0xdfff then throw .malformed
  else pure (Char.ofNat n, 4)

/-- The character written by `c` and the text after it, and the number of characters it takes of that text. -/
def readChar (c : Char) (rest : List Char) : Except Fault (Char × Nat) :=
  if c.toNat < 0x20 then .error .malformed
  else if c ≠ '\\' then .ok (c, 0)
  else match rest with
    | [] => .error .endsEarly
    | e :: digits =>
      if e = 'u' then (numberedEscape digits).map fun (ch, used) => (ch, used + 1)
      else match unescapeLetter? e with
        | some ch => .ok (ch, 1)
        | none => .error .malformed

/-- The characters of a string up to its closing quote, after passing over `skip` characters. -/
def readString (skip : Nat) : List Char → Except Fault (List Char)
  | [] => .error .endsEarly
  | c :: rest =>
    match skip with
    | skip + 1 => readString skip rest
    | 0 =>
      if c = '"' then .ok []
      else do
        let (ch, used) ← readChar c rest
        let more ← readString used rest
        pure (ch :: more)

/-! ### Skipping -/

/-- The number of characters that the character written by `c` takes of the text after it, whatever it denotes. -/
def skipChar (c : Char) (rest : List Char) : Except Fault Nat :=
  if c.toNat < 0x20 then .error .malformed
  else if c ≠ '\\' then .ok 0
  else match rest with
    | [] => .error .endsEarly
    | e :: digits =>
      if e = 'u' then (hexQuad digits).map fun _ => 5
      else if (unescapeLetter? e).isSome then .ok 1
      else .error .malformed

/-- The text behind the closing quote of a string, after passing over `skip` characters. -/
def skipString (skip : Nat) : List Char → Except Fault (List Char)
  | [] => .error .endsEarly
  | c :: rest =>
    match skip with
    | skip + 1 => skipString skip rest
    | 0 =>
      if c = '"' then .ok rest
      else do
        let used ← skipChar c rest
        skipString used rest

end WordRecords.Json
