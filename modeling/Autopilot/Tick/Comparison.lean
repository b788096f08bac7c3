import Autopilot.Number.Basic
import Autopilot.Script.Basic

/-!
# Comparing numbers in a tick

Order is exact.  Two numbers count as equal when they differ by less than a tolerance,
and as unequal when they differ by at least that much.
-/

namespace Autopilot

/-- The least difference that keeps two numbers from counting as equal.  It is not zero
or less. -/
structure Tolerance where
  epsilon : Number
  not_le_zero : epsilon.le (.int 0) = false

namespace Tolerance

/-- The tolerance given by a number. -/
def ofNumber (epsilon : Number) : Except Fault Tolerance :=
  if h : epsilon.le (.int 0) = false then .ok ⟨epsilon, h⟩
  else .error .epsilonNotPositive

/-- The tolerance unless another one is set: one thousandth. -/
def thousandth : Tolerance where
  epsilon := .real (.ofDecimal false 1 (-3))
  not_le_zero := by decide +kernel

end Tolerance

/-- Whether two numbers are in a relation, differences below `epsilon` being taken for
none. -/
def Comparator.compare (comparator : Comparator) (left right epsilon : Number) :
    Except Fault Bool :=
  match comparator with
  | less => .ok (left.lt right)
  | lessEqual => .ok (left.le right)
  | greater => .ok (right.lt left)
  | greaterEqual => .ok (right.le left)
  | equal => do
    return (← left.distance right).lt epsilon
  | notEqual => do
    return epsilon.le (← left.distance right)

end Autopilot
