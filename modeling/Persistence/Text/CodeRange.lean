/-!
Ranges of code points, of which the tables of character properties consist.
-/

namespace Persistence.Text

/-- The code points from a first to a last one. -/
abbrev CodeRange := Nat × Nat

/-- Whether a character lies in one of some ranges. -/
def inRanges (ranges : List CodeRange) (c : Char) : Bool :=
  ranges.any fun range => range.1 ≤ c.toNat && c.toNat ≤ range.2

end Persistence.Text
