/-!
# Powers of two and of ten

The two bases in which numbers are held and shown.
-/

namespace Autopilot

/-- A power of two. -/
def twoPow (n : Nat) : Nat := Nat.pow 2 n

/-- A power of ten. -/
def tenPow (n : Nat) : Nat := Nat.pow 10 n

theorem twoPow_pos (n : Nat) : 0 < twoPow n :=
  Nat.pow_pos (Nat.zero_lt_succ 1)

theorem tenPow_pos (n : Nat) : 0 < tenPow n :=
  Nat.pow_pos (Nat.zero_lt_succ 9)

theorem twoPow_add (m n : Nat) : twoPow (m + n) = twoPow m * twoPow n :=
  Nat.pow_add 2 m n

theorem twoPow_le_twoPow {m n : Nat} (h : m ≤ n) : twoPow m ≤ twoPow n :=
  Nat.pow_le_pow_right (Nat.zero_lt_succ 1) h

/-- A number lies below the power of two after its binary logarithm. -/
theorem lt_twoPow_log2 (n : Nat) : n < twoPow (n.log2 + 1) :=
  Nat.lt_log2_self

end Autopilot
