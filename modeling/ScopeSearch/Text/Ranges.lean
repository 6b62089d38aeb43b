/-!
# Ranges of code points

Character classes are ascending lists of disjoint closed ranges of code points.
-/

set_option autoImplicit false

namespace ScopeSearch.Text

/-- Membership of a code point in an ascending list of ranges; the search stops at the first range
that begins beyond the code point. -/
def inRanges (n : Nat) : List (Nat × Nat) → Bool
  | [] => false
  | (low, high) :: rest => if n < low then false else n ≤ high || inRanges n rest

end ScopeSearch.Text
