/-!
# Sets of code points

A set of characters given as inclusive ranges of code points in increasing order.
-/

namespace MarkupCleaner.Unicode

/-- Inclusive ranges of code points, in increasing order and disjoint. -/
abbrev CodeRanges := List (Nat × Nat)

/-- Whether a code point lies in one of the ranges; the search stops at the first range that starts
    beyond it. -/
def CodeRanges.covers : CodeRanges → Nat → Bool
  | [], _ => false
  | (first, last) :: ranges, code =>
    if code < first then false else code ≤ last || CodeRanges.covers ranges code

end MarkupCleaner.Unicode
