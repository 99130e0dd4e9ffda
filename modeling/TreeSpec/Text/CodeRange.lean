/-!
# Ranges of code points

A set of characters given as inclusive ranges of code points, which is how the tables
of character properties are written down.
-/

namespace TreeSpec.Text

/-- The first and the last code point of a range. -/
abbrev CodeRange := Nat × Nat

def inRanges (ranges : List CodeRange) (c : Char) : Bool :=
  ranges.any fun range => range.1 ≤ c.toNat && c.toNat ≤ range.2

end TreeSpec.Text
