/-!
# Ranges of code points

Classes of characters outside ASCII are given by tables of closed ranges of code
points.  A class is looked up by scanning its table.
-/

namespace Autopilot.Text

/-- The code points from `first` to `last`, both included. -/
structure CodeRange where
  first : Nat
  last : Nat

/-- Whether a code point lies in a range. -/
def CodeRange.contains (range : CodeRange) (n : Nat) : Bool :=
  range.first ≤ n && n ≤ range.last

/-- Whether some range of a table contains a code point. -/
def covers (table : Array CodeRange) (n : Nat) : Bool :=
  table.any (·.contains n)

end Autopilot.Text
