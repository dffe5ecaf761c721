/-!
# Sets of characters as ranges

A character class of the Unicode standard is a short list of closed ranges of code points.  The
tables of this library are written in ascending order, but membership does not depend on it.
-/

namespace Grounding.Text

/-- Whether a code point lies in one of the closed ranges. -/
def inRanges (ranges : List (Nat × Nat)) (n : Nat) : Bool :=
  ranges.any fun r => r.1 ≤ n && n ≤ r.2

end Grounding.Text
