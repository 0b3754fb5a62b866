import WordRecords.Limits
import WordRecords.Text.Fields
import WordRecords.Text.Hexadecimal
import WordRecords.Toml.Quoted
import WordRecords.Toml.Value

/-!
# Bare values of TOML texts

Truth values, numbers, dates and times are written without quotes. Words that only blanks divide make up one value, such
as a date and a time of day. What a bare value is, its first characters decide.
Dates and times must be on the calendar and on the clock. A number must have the shape of one; whether it can be held,
an integer in 128 bits and any other number in a double, matters to those only who ask for its value.
-/

namespace WordRecords.Toml

/-! ### Digits -/

/-- Whether a character is a digit to a base up to sixteen. -/
def isDigitTo (base : Nat) (c : Char) : Bool := (Text.hexValue? c).any fun d => decide (d < base)

/-- The number that a row of digits denotes. -/
def rowValue (base : Nat) (digits : List Char) : Nat :=
  digits.foldl (fun n c => n * base + (Text.hexValue? c).getD 0) 0

/-- A text without its underscores. -/
def dropUnderscores (cs : List Char) : List Char := cs.filter (· ≠ '_')

/-- Whether every underscore stands between two digits of a kind. -/
def underscoresFit (isDigit : Char → Bool) (cs : List Char) : Bool :=
  let parts := Text.fields '_' cs
  parts.tail.all (fun part => part.head?.any isDigit) && parts.dropLast.all (fun part => part.getLast?.any isDigit)

/-- The parts of a text before and behind the first character of a kind; the second starts with that character. -/
def cutAt (p : Char → Bool) (cs : List Char) : List Char × List Char :=
  (cs.takeWhile fun c => !p c, cs.dropWhile fun c => !p c)

/-- A text without a sign in front, and whether that was a minus. -/
def cutSign : List Char → Bool × List Char
  | '-' :: rest => (true, rest)
  | '+' :: rest => (false, rest)
  | cs => (false, cs)

/-! ### Integers -/

/-- Integers of 128 bits without a sign are those below this one. -/
def wideLimit : Nat := Nat.pow 2 128

/-- Whether digits to a base make an integer of 128 bits. -/
def rowHolds (base : Nat) (digits : List Char) : Bool :=
  digits ≠ [] && digits.all (isDigitTo base) && decide (rowValue base digits < wideLimit)

/-- Whether a text, in which a sign may stand in front, is a decimal integer of 128 bits. -/
def decimalHolds (cs : List Char) : Bool :=
  let (negative, digits) := cutSign cs
  rowHolds 10 digits && (!negative || decide (rowValue 10 digits ≤ wideLimit / 2))

/-- The integer to a base that digits with underscores denote. -/
def radixValue? (base : Nat) (digits : List Char) : Option Value :=
  if (dropUnderscores digits).all (isDigitTo base) && underscoresFit (isDigitTo 16) digits then
    some (.number (rowHolds base (dropUnderscores digits)))
  else none

/-- The decimal integer that a text with a sign or without denotes. Only what stands beside its underscores must be
digits, even hexadecimal ones; whatever else is no decimal digit makes an integer that cannot be held. -/
def decimalValue? (cs : List Char) : Option Value :=
  let (_, digits) := cutSign cs
  if digits.head? ≠ some '0' && underscoresFit (isDigitTo 16) cs then
    some (.number (decimalHolds (dropUnderscores cs)))
  else none

/-! ### Other numbers -/

/-- Whether digits times a power of ten stay below the least number that doubles round to infinity. The number of
places decides unless it is close to that of the limit. -/
def inDoubleRange (digits : List Char) (exponent : Int) : Bool :=
  let digits := digits.dropWhile (· = '0')
  let places := digits.length + exponent
  if digits = [] ∨ places ≤ 308 then true
  else if 310 ≤ places then false
  else if exponent < 0 then decide (rowValue 10 digits < doubleLimit * Nat.pow 10 exponent.natAbs)
  else decide (rowValue 10 digits * Nat.pow 10 exponent.natAbs < doubleLimit)

/-- A row of digits and underscores with at least one digit, and what follows it. -/
def cutRow? (cs : List Char) : Option (List Char × List Char) :=
  let (row, rest) := cutAt (fun c => !(c.isDigit || c == '_')) cs
  let digits := dropUnderscores row
  if digits = [] then none else some (digits, rest)

/-- The digits of a fraction, if there is one, and what follows it. -/
def cutFraction? : List Char → Option (List Char × List Char)
  | '.' :: rest => cutRow? rest
  | cs => some ([], cs)

/-- The power of ten behind an exponent mark, if there is one, and what follows it. -/
def cutExponent? : List Char → Option (Int × List Char)
  | c :: rest =>
    if c = 'e' ∨ c = 'E' then do
      let (negative, rest) := cutSign rest
      let (digits, rest) ← cutRow? rest
      let n : Int := rowValue 10 digits
      pure (if negative then -n else n, rest)
    else some (0, c :: rest)
  | [] => some (0, [])

/-- The number with a fraction or an exponent that a text denotes. A zero in front is the only digit before the
point. -/
def decimalPoint? (cs : List Char) : Option Value := do
  let (whole, rest) ← cutRow? (cutSign cs).2
  let (fraction, rest) ← cutFraction? rest
  let (exponent, rest) ← cutExponent? rest
  if rest = [] ∧ (whole.head? ≠ some '0' ∨ whole = ['0']) ∧ underscoresFit Char.isDigit cs then
    pure (.number (inDoubleRange (whole ++ fraction) (exponent - fraction.length)))
  else none

/-! ### Dates and times -/

/-- The number that a text of a given length denotes, if it holds only digits. -/
def fixedDigits? (width : Nat) (cs : List Char) : Option Nat :=
  if cs.length = width ∧ cs.all Char.isDigit then some (rowValue 10 cs) else none

/-- The number of days of a month. -/
def daysOf (year month : Nat) : Nat :=
  if month = 2 then if year % 4 = 0 ∧ (year % 100 ≠ 0 ∨ year % 400 = 0) then 29 else 28
  else if month = 4 ∨ month = 6 ∨ month = 9 ∨ month = 11 then 30
  else 31

def isDate : List Char → Bool
  | [y1, y2, y3, y4, '-', m1, m2, '-', d1, d2] =>
    match fixedDigits? 4 [y1, y2, y3, y4], fixedDigits? 2 [m1, m2], fixedDigits? 2 [d1, d2] with
    | some year, some month, some day =>
      decide (1 ≤ month ∧ month ≤ 12 ∧ 1 ≤ day ∧ day ≤ daysOf year month)
    | _, _, _ => false
  | _ => false

/-- Whether a text behind hours and minutes is nothing, or seconds with or without a fraction. -/
def isSeconds : List Char → Bool
  | [] => true
  | ':' :: s1 :: s2 :: fraction =>
    (fixedDigits? 2 [s1, s2]).any (fun second => decide (second ≤ 60)) &&
      match fraction with
      | [] => true
      | '.' :: digits => digits ≠ [] && digits.all Char.isDigit
      | _ => false
  | _ => false

def isTime : List Char → Bool
  | h1 :: h2 :: ':' :: m1 :: m2 :: seconds =>
    match fixedDigits? 2 [h1, h2], fixedDigits? 2 [m1, m2] with
    | some hour, some minute => decide (hour ≤ 23 ∧ minute ≤ 59) && isSeconds seconds
    | _, _ => false
  | _ => false

/-- Whether a text is the distance of a time zone. -/
def isZone : List Char → Bool
  | ['Z'] | ['z'] => true
  | [sign, h1, h2, ':', m1, m2] =>
    (sign = '+' || sign = '-') &&
      match fixedDigits? 2 [h1, h2], fixedDigits? 2 [m1, m2] with
      | some hour, some minute => decide (hour ≤ 23 ∧ minute ≤ 59)
      | _, _ => false
  | _ => false

/-- Whether a text is a date, a time, or a date with a time and perhaps a time zone. -/
def isMoment (cs : List Char) : Bool :=
  isDate cs || isTime cs ||
    match cs.drop 10 with
    | mark :: rest =>
      let (time, zone) := cutAt (fun c => c == 'Z' || c == 'z' || c == '+' || c == '-') rest
      isDate (cs.take 10) && (mark = 'T' || mark = 't' || mark = ' ') && isTime time && (zone = [] || isZone zone)
    | [] => false

/-! ### All together -/

/-- The value of a text that begins with a digit, aside from a sign: what follows the first digits tells dates and times
from numbers, and a point or an exponent mark tells other numbers from integers. A space is part of dates with times
only. -/
def digitsValue? (cs : List Char) : Option Value :=
  match (cutSign cs).2.dropWhile Char.isDigit with
  | [] => if (cutSign cs).2 = ['0'] then some (.number true) else decimalValue? cs
  | c :: rest =>
    if c = '-' ∨ c = ':' then if isMoment cs then some .moment else none
    else if (c :: rest).any (fun c => c == '.' || c == 'e' || c == 'E') then decimalPoint? cs
    else if c = '_' ∧ ' ' ∉ rest then decimalValue? cs
    else none

/-- The value that a text without quotes is. -/
def bareValue? (cs : List Char) : Option Value :=
  match cs with
  | ['t', 'r', 'u', 'e'] => some (.bool true)
  | ['f', 'a', 'l', 's', 'e'] => some (.bool false)
  | '0' :: 'x' :: digits => radixValue? 16 digits
  | '0' :: 'o' :: digits => radixValue? 8 digits
  | '0' :: 'b' :: digits => radixValue? 2 digits
  | cs =>
    let word := (cutSign cs).2
    if word = ['i', 'n', 'f'] ∨ word = ['n', 'a', 'n'] then some (.number true)
    else if word.head?.any Char.isDigit then digitsValue? cs
    else none

/-- Whether a character ends a word without quotes. -/
def endsWord (c : Char) : Bool :=
  c == ' ' || c == '\t' || c == '\n' || c == '\r' || c == '#' || c == '=' || c == ',' || c == '[' || c == ']' ||
    c == '\x7b' || c == '\x7d'

/-- Whether one more word without quotes follows the blanks in front of a text. -/
def wordFollows (cs : List Char) : Bool :=
  (skipBlank cs).head?.any fun c => !endsWord c && c ≠ '"' && c ≠ '\''

/-- The words without quotes in front of a text, with the blanks between them, and what follows them. -/
def cutWords : List Char → List Char × List Char
  | [] => ([], [])
  | c :: rest =>
    if !endsWord c || ((c = ' ' || c = '\t') && wordFollows rest) then
      let (words, behind) := cutWords rest
      (c :: words, behind)
    else ([], c :: rest)

/-- The bare value in front of a text, with the text behind it. -/
def scanBare (cs : List Char) : Option (Value × List Char) :=
  let (words, rest) := cutWords cs
  (bareValue? words).map (·, rest)

end WordRecords.Toml
