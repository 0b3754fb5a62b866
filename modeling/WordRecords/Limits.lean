/-!
# Ranges of numbers

Counts and signed numbers take 64 bits, and other numbers are judged by whether a double can hold them.
-/

namespace WordRecords

/-- Counts are the natural numbers below this one. -/
def countLimit : Nat := Nat.pow 2 64

/-- Signed numbers reach from minus this number up to this number, itself excluded. -/
def signedLimit : Nat := Nat.pow 2 63

/-- The least number that is rounded to infinity: half a unit above the largest double. -/
def doubleLimit : Nat := Nat.pow 2 1024 - Nat.pow 2 970

end WordRecords
