/-! # Sets of code points

Properties of characters are tables of ranges. A table lists inclusive ranges in ascending order,
and a character has the property exactly when one of the ranges holds its code point.
-/

namespace ContainerBuild

/-- Inclusive ranges of code points, in ascending order. -/
abbrev CodePoints := List (Nat × Nat)

namespace CodePoints

/-- Whether one of the ranges holds the character's code point. -/
def contains (ranges : CodePoints) (c : Char) : Bool :=
  ranges.any fun range => range.1 ≤ c.toNat && c.toNat ≤ range.2

end CodePoints

end ContainerBuild
