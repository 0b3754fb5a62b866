import WordRecords.Text.Printable

/-!
# Quoted texts

How a message shows a text exactly: between double quotes, with a backslash before quotes and backslashes, the usual
letters for tab, carriage return, line feed and the null character, and every other character without a glyph by its
number in braces.
-/

namespace WordRecords.Text

/-- A character inside quotes. -/
def quotedChar (c : Char) : List Char :=
  if c = '"' ∨ c = '\\' then ['\\', c]
  else if c = '\t' then ['\\', 't']
  else if c = '\r' then ['\\', 'r']
  else if c = '\n' then ['\\', 'n']
  else if c.toNat = 0 then ['\\', '0']
  else if isPrintable c then [c]
  else ['\\', 'u', '\x7b'] ++ Nat.toDigits 16 c.toNat ++ ['\x7d']

/-- A text between quotes. -/
def quoted (s : String) : String :=
  String.ofList ('"' :: s.toList.flatMap quotedChar ++ ['"'])

end WordRecords.Text
