/-!
# Code point ranges

The character tables of this library list the code points of a property as sorted, disjoint,
inclusive ranges. Membership scans the list and stops at the first range that starts above the
code point.
-/

namespace DiagnosticCheck.Text.Unicode

def inRanges : List (Nat × Nat) → Nat → Bool
  | [], _ => false
  | (lo, hi) :: rs, n => if n < lo then false else if n ≤ hi then true else inRanges rs n

end DiagnosticCheck.Text.Unicode
