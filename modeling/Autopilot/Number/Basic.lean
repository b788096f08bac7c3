import Autopilot.Fault
import Autopilot.Number.Binary64

/-!
# Numbers

A world answers with whole numbers of any size or with binary64 reals, and the two
kinds are told apart.  They are compared by their exact values; a difference of two
whole numbers is exact, any other one is taken between reals.
-/

namespace Autopilot

/-- A whole number or a real one. -/
inductive Number where
  | int (n : Int)
  | real (x : Binary64)
deriving DecidableEq

/-- The exact value of a number on the extended line, finite ones counted in the
smallest positive magnitude. -/
inductive ExactValue where
  | undefined
  | below
  | units (n : Int)
  | above
deriving DecidableEq

namespace ExactValue

/-- The order of the extended line.  What is undefined is in no relation. -/
def lt : ExactValue → ExactValue → Bool
  | undefined, _ => false
  | _, undefined => false
  | below, below => false
  | below, _ => true
  | _, below => false
  | above, _ => false
  | _, above => true
  | units a, units b => a < b

/-- The order of the extended line with equality. -/
def le (a b : ExactValue) : Bool :=
  a != undefined && b != undefined && !b.lt a

end ExactValue

/-- The exact value of a binary64 number. -/
def Binary64.exact : Binary64 → ExactValue
  | nan => .undefined
  | infinite true => .below
  | infinite false => .above
  | finite negative size => .units (signedUnits negative size)

namespace Number

/-- The exact value of a number. -/
def exact : Number → ExactValue
  | int n => .units (n * Binary64.one)
  | real x => x.exact

/-- Whether a number lies below another one. -/
def lt (a b : Number) : Bool :=
  a.exact.lt b.exact

/-- Whether a number is at most another one. -/
def le (a b : Number) : Bool :=
  a.exact.le b.exact

/-- A number as a real: a whole number may be too large for it. -/
def toReal : Number → Except Fault Binary64
  | int n => (Binary64.ofInt? n).elim (.error .numberOverflow) .ok
  | real x => .ok x

/-- The absolute difference of two numbers: exact between whole numbers, otherwise
taken between reals. -/
def distance : Number → Number → Except Fault Number
  | int a, int b => .ok (int ((a - b).natAbs : Int))
  | a, b => do
    let x ← a.toReal
    let y ← b.toReal
    return real (Binary64.distance x y)

/-- The whole number zero. -/
def zero : Number := int 0

end Number

end Autopilot
