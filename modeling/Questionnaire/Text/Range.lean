/-!
# Ranges of characters

Properties of characters are tables of closed ranges of code points, in ascending order.

* `Text.inRanges`: is a code point in one of some ranges?
-/

namespace Questionnaire.Text

/-- Is a code point in one of some closed ranges? -/
def inRanges (ranges : List (Nat × Nat)) (n : Nat) : Bool := ranges.any fun (first, last) => first ≤ n && n ≤ last

end Questionnaire.Text
