import WordRecords.Text.Hexadecimal

/-!
# Quoted texts of TOML

Double quotes allow escapes, single quotes do not; three quotes allow line breaks. A line break right behind three
quotes does not count, and a backslash at the end of a line joins it with the next text.
-/

namespace WordRecords.Toml

/-- Whether a character may stand in a comment or a quoted text: no control but the tab. -/
def isPlain (c : Char) : Bool := c = '\t' || (decide (0x20 ≤ c.toNat) && c ≠ '\x7f')

/-- The text behind a line break, if there is one. -/
def lineBreak? : List Char → Option (List Char)
  | '\n' :: rest => some rest
  | '\r' :: '\n' :: rest => some rest
  | _ => none

/-- The character of a code point that is one. -/
def scalarChar? (n : Nat) : Option Char := if n.isValidChar then some (Char.ofNat n) else none

/-- The character of a code point in a given number of hexadecimal digits. -/
def codePoint? (width : Nat) (cs : List Char) : Option Char := do
  let digits ← (cs.take width).mapM Text.hexValue?
  if digits.length = width then scalarChar? (digits.foldl (fun n d => n * 16 + d) 0) else none

/-- The character that an escape behind its backslash denotes, with the text behind it. -/
def escape? : List Char → Option (Char × List Char)
  | [] => none
  | c :: rest =>
    if c = '"' ∨ c = '\\' then some (c, rest)
    else if c = 'b' then some ('\x08', rest)
    else if c = 't' then some ('\t', rest)
    else if c = 'n' then some ('\n', rest)
    else if c = 'f' then some ('\x0c', rest)
    else if c = 'r' then some ('\r', rest)
    else if c = 'e' then some ('\x1b', rest)
    else if c = 'x' then (codePoint? 2 rest).map (·, rest.drop 2)
    else if c = 'u' then (codePoint? 4 rest).map (·, rest.drop 4)
    else if c = 'U' then (codePoint? 8 rest).map (·, rest.drop 8)
    else none

/-- A text up to a double quote. The first argument bounds the number of steps. -/
def basicLine? : Nat → List Char → Option (List Char × List Char)
  | 0, _ => none
  | _ + 1, [] => none
  | fuel + 1, c :: rest =>
    if c = '"' then some ([], rest)
    else if c = '\\' then do
      let (e, rest) ← escape? rest
      let (more, rest) ← basicLine? fuel rest
      pure (e :: more, rest)
    else if isPlain c then do
      let (more, rest) ← basicLine? fuel rest
      pure (c :: more, rest)
    else none

/-- A text up to a single quote. -/
def literalLine? (cs : List Char) : Option (List Char × List Char) :=
  match cs.dropWhile fun c => isPlain c && c ≠ '\'' with
  | '\'' :: rest => some (cs.takeWhile fun c => isPlain c && c ≠ '\'', rest)
  | _ => none

/-- What quotes in a text of several lines are: with three or more, the last three of at most five close it, and what
comes before them belongs to the text. Answers with the text, and with what follows if they close it. -/
def quoteRun (quote : Char) (cs : List Char) : List Char × Option (List Char) :=
  let run := (cs.takeWhile (· == quote)).length
  if run < 3 then (List.replicate run quote, none)
  else
    let kept := min (run - 3) 2
    (List.replicate kept quote, some (cs.drop (kept + 3)))

/-- A text without the blanks in front. -/
def skipBlank (cs : List Char) : List Char := cs.dropWhile fun c => c == ' ' || c == '\t'

/-- A text without the blanks and line breaks in front. The first argument bounds the number of line breaks. -/
def skipBreaks : Nat → List Char → List Char
  | 0, cs => cs
  | fuel + 1, cs =>
    match lineBreak? (skipBlank cs) with
    | some rest => skipBreaks fuel rest
    | none => skipBlank cs

/-- A text without the blanks and line breaks in front, if there is a line break among them. -/
def joinLines? (cs : List Char) : Option (List Char) :=
  (lineBreak? (skipBlank cs)).map fun rest => skipBreaks (rest.length + 1) rest

/-- A text of several lines up to three quotes. The first argument bounds the number of steps. -/
def multiLine? (quote : Char) : Nat → List Char → Option (List Char × List Char)
  | 0, _ => none
  | _ + 1, [] => none
  | fuel + 1, c :: rest =>
    if c = quote then
      match quoteRun quote (c :: rest) with
      | (text, some rest) => some (text, rest)
      | (text, none) => do
        let (more, rest) ← multiLine? quote fuel ((c :: rest).drop text.length)
        pure (text ++ more, rest)
    else if c = '\\' ∧ quote = '"' then
      match joinLines? rest with
      | some rest => multiLine? quote fuel rest
      | none => do
        let (e, rest) ← escape? rest
        let (more, rest) ← multiLine? quote fuel rest
        pure (e :: more, rest)
    else
      match lineBreak? (c :: rest) with
      | some later => do
        let (more, behind) ← multiLine? quote fuel later
        pure ((c :: rest).take (rest.length + 1 - later.length) ++ more, behind)
      | none =>
        if isPlain c then do
          let (more, rest) ← multiLine? quote fuel rest
          pure (c :: more, rest)
        else none

/-- A text in quotes that may not span lines, with the text behind it. -/
def scanLine? (cs : List Char) : Option (List Char × List Char) :=
  match cs with
  | '"' :: rest => basicLine? (rest.length + 1) rest
  | '\'' :: rest => literalLine? rest
  | _ => none

/-- A text in quotes of any kind, with the text behind it. -/
def scanQuoted? (cs : List Char) : Option (List Char × List Char) :=
  let several (quote : Char) (rest : List Char) :=
    multiLine? quote (rest.length + 1) ((lineBreak? rest).getD rest)
  match cs with
  | '"' :: '"' :: '"' :: rest => several '"' rest
  | '\'' :: '\'' :: '\'' :: rest => several '\'' rest
  | _ => scanLine? cs

end WordRecords.Toml
