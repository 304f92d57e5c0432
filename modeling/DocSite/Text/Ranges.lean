/-!
# Ranges of characters

A property of characters is a list of closed ranges of code points, in ascending order.
-/

namespace DocSite.Text

/-- Whether a code point lies in one of the ranges.  Below the start of a range it is in none of the
ranges from there on. -/
def inRanges (n : Nat) : List (Nat × Nat) → Bool
  | [] => false
  | r :: ranges => if n < r.1 then false else n ≤ r.2 || inRanges n ranges

end DocSite.Text
