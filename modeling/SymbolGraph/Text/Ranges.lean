/-! # Sets of characters as ranges of code points -/

namespace SymbolGraph.Text

/-- A set of characters, given by ranges of code points, both ends included. -/
abbrev Ranges := List (Nat × Nat)

/-- Whether a character lies in one of the ranges. -/
def Ranges.has (rs : Ranges) (c : Char) : Bool :=
  rs.any fun r => r.1 ≤ c.toNat && c.toNat ≤ r.2

end SymbolGraph.Text
