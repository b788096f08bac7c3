import Autopilot.Number.Power

/-!
# Binary64 numbers

The real numbers that scripts compute with are those of the 64-bit binary format:
a sign and a magnitude, two infinities and a value that is no number.  A magnitude
is kept exactly, as a multiple of the smallest positive one, `2 ^ (-1074)`, so that
comparing two numbers is comparing two integers.

A quotient is rounded to the nearest magnitude, and to the one with an even
multiplier when two are equally near.
-/

namespace Autopilot

/-- A quotient of natural numbers rounded to the nearest one, a tie going to the
even neighbour. -/
def roundDiv (num den : Nat) : Nat :=
  let quotient := num / den
  let rest := 2 * (num % den)
  if rest < den then quotient
  else if den < rest then quotient + 1
  else quotient + quotient % 2

theorem roundDiv_le (num den : Nat) : roundDiv num den ≤ num / den + 1 := by
  unfold roundDiv
  dsimp only
  split
  · omega
  · split <;> omega

theorem le_roundDiv (num den : Nat) : num / den ≤ roundDiv num den := by
  unfold roundDiv
  dsimp only
  split
  · omega
  · split <;> omega

/-- A number that divides is divided exactly. -/
theorem roundDiv_mul_right (n : Nat) {den : Nat} (h : 0 < den) :
    roundDiv (n * den) den = n := by
  simp [roundDiv, Nat.mul_div_cancel n h, h]

namespace Binary64

/-- How many of the smallest magnitudes make one. -/
def one : Nat := twoPow 1074

/-- The first magnitude that is out of range, in smallest magnitudes. -/
def limit : Nat := twoPow 2098

theorem limit_pos : 0 < limit :=
  twoPow_pos _

/-- A count of smallest magnitudes that the format can hold: at most fifty-three
significant bits, and below the limit. -/
def Fits (n : Nat) : Prop :=
  n < limit ∧
    ∃ multiplier exponent, multiplier ≤ twoPow 53 ∧ n = multiplier * twoPow exponent

end Binary64

/-- The absolute value of a finite binary64 number, counted in smallest magnitudes. -/
structure Magnitude where
  units : Nat
  fits : Binary64.Fits units

namespace Magnitude

open Binary64

instance : DecidableEq Magnitude := fun a b =>
  decidable_of_iff (a.units = b.units) <| by
    cases a
    cases b
    simp

/-- The exponent of the spacing of magnitudes around a count of smallest ones. -/
def spacing (n : Nat) : Nat :=
  n.log2 - 52

/-- Fifty-three bits are enough for the multiplier of the spacing. -/
theorem roundDiv_spacing_le (num den : Nat) :
    roundDiv num (den * twoPow (spacing (num / den))) ≤ twoPow 53 := by
  have hlog : num / den < twoPow ((num / den).log2 + 1) := lt_twoPow_log2 _
  have hpow : twoPow ((num / den).log2 + 1) ≤
      twoPow 53 * twoPow (spacing (num / den)) := by
    rw [← twoPow_add]
    exact twoPow_le_twoPow (by unfold spacing; omega)
  have hquotient : num / (den * twoPow (spacing (num / den))) < twoPow 53 := by
    rw [← Nat.div_div_eq_div_mul]
    exact (Nat.div_lt_iff_lt_mul (twoPow_pos _)).mpr (by omega)
  have := roundDiv_le num (den * twoPow (spacing (num / den)))
  omega

/-- A quotient rounded to fifty-three significant bits, be it in range or not. -/
def rounded (num den : Nat) : Nat :=
  roundDiv num (den * twoPow (spacing (num / den))) * twoPow (spacing (num / den))

/-- The magnitude nearest to a quotient of smallest magnitudes, if it is in range. -/
def ofRatio? (num den : Nat) : Option Magnitude :=
  if h : rounded num den < limit then
    some ⟨rounded num den, h, _, _, roundDiv_spacing_le num den, rfl⟩
  else none

/-- The magnitude nearest to `coefficient * 10 ^ scale`, if it is in range. -/
def ofDecimal? (coefficient : Nat) (scale : Int) : Option Magnitude :=
  ofRatio? (coefficient * tenPow scale.toNat * one) (tenPow (-scale).toNat)

/-- The magnitude of zero. -/
def zero : Magnitude :=
  ⟨0, limit_pos, 0, 0, Nat.zero_le _, Nat.zero_mul _ |>.symm⟩

end Magnitude

/-- A number of the 64-bit binary format.  The two zeros differ in sign. -/
inductive Binary64 where
  | nan
  | infinite (negative : Bool)
  | finite (negative : Bool) (size : Magnitude)
deriving DecidableEq

namespace Binary64

/-- A sign and a magnitude that may be out of range. -/
def ofMagnitude? (negative : Bool) : Option Magnitude → Binary64
  | some size => finite negative size
  | none => infinite negative

/-- The number nearest to a decimal; one that is out of range becomes infinite. -/
def ofDecimal (negative : Bool) (coefficient : Nat) (scale : Int) : Binary64 :=
  ofMagnitude? negative (Magnitude.ofDecimal? coefficient scale)

/-- The number nearest to an integer, if the integer is in range. -/
def ofInt? (n : Int) : Option Binary64 :=
  (Magnitude.ofRatio? (n.natAbs * one) 1).map (finite (decide (n < 0)))

/-- The number without its sign. -/
def abs : Binary64 → Binary64
  | nan => nan
  | infinite _ => infinite false
  | finite _ size => finite false size

/-- A finite number as an integer count of smallest magnitudes. -/
def signedUnits (negative : Bool) (size : Magnitude) : Int :=
  if negative then -(size.units : Int) else size.units

/-- The absolute difference of two numbers.  Two infinities of the same sign have
none. -/
def distance : Binary64 → Binary64 → Binary64
  | nan, _ => nan
  | _, nan => nan
  | infinite a, infinite b => if a = b then nan else infinite false
  | infinite _, finite _ _ => infinite false
  | finite _ _, infinite _ => infinite false
  | finite a x, finite b y =>
    ofMagnitude? false
      (Magnitude.ofRatio? (signedUnits a x - signedUnits b y).natAbs 1)

theorem distance_comm (x y : Binary64) : distance x y = distance y x := by
  cases x <;> cases y <;> simp only [distance]
  · simp only [eq_comm]
  · rw [← Int.natAbs_neg, Int.neg_sub]

/-- The positive zero. -/
def zero : Binary64 := finite false Magnitude.zero

end Binary64

end Autopilot
