/-!
# Sets of characters

A set of characters is written as a list of closed ranges of code points; `Ranges.has` is membership.
-/

namespace WordRecords.Text

/-- A set of characters, as closed ranges of code points. -/
abbrev Ranges := List (Nat × Nat)

/-- Membership of a character in a set of ranges. -/
def Ranges.has (rs : Ranges) (c : Char) : Bool :=
  rs.any fun r => decide (r.1 ≤ c.toNat ∧ c.toNat ≤ r.2)

end WordRecords.Text
