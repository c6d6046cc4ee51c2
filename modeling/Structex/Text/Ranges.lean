/-!
# Sets of code points as ranges

A class of characters is kept as a list of inclusive ranges of code points. This module says when
such a list covers a code point; the lists themselves are in the table modules.
-/

namespace Structex.Text

/-- A set of code points, written as inclusive ranges. -/
abbrev CodeRanges := List (Nat × Nat)

/-- Whether some range holds the code point. -/
def CodeRanges.covers (ranges : CodeRanges) (code : Nat) : Bool :=
  ranges.any fun range => range.1 ≤ code && code ≤ range.2

/-- A code point is covered exactly when it lies between the ends of a listed range. -/
theorem CodeRanges.covers_iff {ranges : CodeRanges} {code : Nat} :
    ranges.covers code = true ↔ ∃ range ∈ ranges, range.1 ≤ code ∧ code ≤ range.2 := by
  simp [CodeRanges.covers]

end Structex.Text
