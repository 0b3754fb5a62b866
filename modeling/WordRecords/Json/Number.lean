import WordRecords.Json.Node
import WordRecords.Limits

/-!
# Numbers of JSON texts

A number without fraction and exponent is an integer if it fits 64 bits. All other numbers count as decimals, of which
only one thing matters: whether a double can hold them, in the approximation that keeps the first digits that fit 64
bits and scales them by a power of ten.
-/

namespace WordRecords.Json

/-- A number as it is written. -/
structure Numeral where
  /-- Whether a minus sign stands in front. -/
  negative : Bool
  /-- The digits before the point. -/
  whole : List Char
  /-- The digits after the point. -/
  fraction : List Char
  /-- The power of ten behind the digits. -/
  exponent : Option Int
deriving DecidableEq, Repr

def digitValue (c : Char) : Nat := c.toNat - '0'.toNat

/-! ### Doubles -/

/-- A natural number to 53 significant bits; a half goes to the even neighbour. -/
def roundTo53 (n : Nat) : Nat :=
  let unit := Nat.pow 2 (n.log2 - 52)
  let q := n / unit
  let r := n % unit
  if 2 * r > unit ∨ (2 * r = unit ∧ q % 2 = 1) then (q + 1) * unit else q * unit

/-- Whether a count times a power of ten leaves the range of doubles. -/
def overflows (digits : Nat) (exponent : Int) : Bool :=
  decide (digits ≠ 0 ∧ 0 ≤ exponent ∧
    (308 < exponent ∨ doubleLimit ≤ roundTo53 digits * roundTo53 (Nat.pow 10 exponent.toNat)))

/-- The leading digits of a number, as a count with a power of ten, while the count stays below the limit. -/
structure Leading where
  /-- The digits kept so far. -/
  digits : Nat
  /-- The power of ten behind them. -/
  exponent : Int
  /-- Whether a digit was dropped already. -/
  full : Bool

/-- Takes one more digit before the point; a digit dropped there still counts as a place. -/
def Leading.pushWhole (l : Leading) (c : Char) : Leading :=
  let n := l.digits * 10 + digitValue c
  if l.full || decide (countLimit ≤ n) then { l with exponent := l.exponent + 1, full := true }
  else { l with digits := n }

/-- Takes one more digit after the point. -/
def Leading.pushFraction (l : Leading) (c : Char) : Leading :=
  let n := l.digits * 10 + digitValue c
  if l.full || decide (countLimit ≤ n) then { l with full := true }
  else { l with digits := n, exponent := l.exponent - 1 }

/-- The leading digits of a number, its own power of ten aside. -/
def Numeral.leading (n : Numeral) : Leading :=
  let whole := n.whole.foldl Leading.pushWhole ⟨0, 0, false⟩
  n.fraction.foldl Leading.pushFraction { whole with full := false }

/-! ### Contents -/

/-- What a number says; nothing if no double holds it. -/
def Numeral.contents (n : Numeral) : Option Scalar :=
  let value := Nat.ofDigitChars 10 n.whole 0
  let fits := if n.negative then 0 < value ∧ value ≤ signedLimit else value < countLimit
  if n.fraction = [] ∧ n.exponent = none ∧ fits then
    some (.integer (if n.negative then -value else value))
  else
    let l := n.leading
    if overflows l.digits (l.exponent + n.exponent.getD 0) then none else some .decimal

/-! ### Scanning -/

/-- A place where a digit is missing: reading tells the end of the text from another character. -/
def missingDigit : List Char → Break
  | [] => ⟨.endsEarly, .malformed⟩
  | _ :: _ => .both .malformed

/-- The leading digits of a text. -/
def digitsOf (cs : List Char) : List Char := cs.takeWhile Char.isDigit

/-- What follows the leading digits of a text. -/
def afterDigits (cs : List Char) : List Char := cs.dropWhile Char.isDigit

/-- The digits before the point: a single zero, or digits that start with another one. -/
def scanWhole : List Char → Except Break (List Char × List Char)
  | [] => .error (missingDigit [])
  | c :: rest =>
    if c = '0' then
      if digitsOf rest = [] then .ok (['0'], rest) else .error (.both .malformed)
    else if c.isDigit then .ok (c :: digitsOf rest, afterDigits rest)
    else .error (.both .malformed)

/-- The point and the digits after it, if there are any. -/
def scanFraction : List Char → Except Break (List Char × List Char)
  | [] => .ok ([], [])
  | c :: rest =>
    if c = '.' then
      if digitsOf rest = [] then .error (missingDigit rest)
      else .ok (digitsOf rest, afterDigits rest)
    else .ok ([], c :: rest)

/-- A sign, if there is one: whether it is a minus. -/
def scanSign : List Char → Bool × List Char
  | [] => (false, [])
  | c :: rest => if c = '-' then (true, rest) else if c = '+' then (false, rest) else (false, c :: rest)

/-- The power of ten, if there is one. -/
def scanExponent : List Char → Except Break (Option Int × List Char)
  | [] => .ok (none, [])
  | c :: rest =>
    if c = 'e' ∨ c = 'E' then
      let (negative, digits) := scanSign rest
      if digitsOf digits = [] then .error (missingDigit digits)
      else
        let n : Int := Nat.ofDigitChars 10 (digitsOf digits) 0
        .ok (some (if negative then -n else n), afterDigits digits)
    else .ok (none, c :: rest)

/-- The number in front of a text, with what follows it. -/
def scanNumeral (cs : List Char) : Except Break (Numeral × List Char) := do
  let negative := cs.head? = some '-'
  let (whole, cs) ← scanWhole (if negative then cs.tail else cs)
  let (fraction, cs) ← scanFraction cs
  let (exponent, cs) ← scanExponent cs
  pure (⟨negative, whole, fraction, exponent⟩, cs)

end WordRecords.Json
