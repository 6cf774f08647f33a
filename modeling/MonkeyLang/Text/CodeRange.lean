/-!
# Ranges of code points

A property of characters that has no rule is given by the ranges of the code
points that have it, both ends included.
-/

set_option autoImplicit false

namespace MonkeyLang.Text

/-- Ranges of code points, each with its first and its last. -/
abbrev CodeRanges := List (Nat × Nat)

/-- Whether the code point of a character lies in one of the ranges. -/
def CodeRanges.has (ranges : CodeRanges) (c : Char) : Bool :=
  ranges.any fun range => decide (range.1 ≤ c.toNat ∧ c.toNat ≤ range.2)

end MonkeyLang.Text
