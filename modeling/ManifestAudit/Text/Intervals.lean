/-!
# Intervals of code points

A class of characters without a simple rule is kept as the intervals of its code
points, each by its first and last, in increasing order. Looking a code point up
halves the intervals in question at every step.
-/

namespace ManifestAudit.Text

/-- The intervals of a class, in increasing order. -/
abbrev Intervals := Array (Nat × Nat)

namespace Intervals

/-- Whether some interval from `low` up to, not including, `high` holds a code
point, found within `fuel` halvings. -/
def holdsWithin (intervals : Intervals) (code : Nat) : Nat → Nat → Nat → Bool
  | 0, _, _ => false
  | fuel + 1, low, high =>
    if low < high then
      let middle := (low + high) / 2
      let (first, last) := intervals.getD middle (0, 0)
      if code < first then holdsWithin intervals code fuel low middle
      else if last < code then holdsWithin intervals code fuel (middle + 1) high
      else true
    else false

/-- Whether some interval holds a code point. -/
def holds (intervals : Intervals) (code : Nat) : Bool :=
  holdsWithin intervals code (intervals.size.log2 + 2) 0 intervals.size

end Intervals

end ManifestAudit.Text
