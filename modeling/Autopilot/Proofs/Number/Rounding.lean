import Autopilot.Number.Binary64
import Mathlib.Order.Nat
import Mathlib.Tactic.ByContra
import Mathlib.Tactic.SplitIfs

/-!
# Rounding keeps order

A larger quotient is never rounded to a smaller magnitude.  A part of a whole is rounded
to less than one as long as one in `2 ^ 54` is lacking, for below one the numbers are
`2 ^ (-53)` apart.

Natural numbers are rounded when they are taken for reals, but not up to `2 ^ 53`.
-/

namespace Autopilot

/-! ## Rounding to the nearest integer -/

theorem roundDiv_cases (num den : Nat) :
    (roundDiv num den = num / den ∧ 2 * (num % den) ≤ den) ∨
      roundDiv num den = num / den + 1 ∧ den ≤ 2 * (num % den) := by
  unfold roundDiv
  dsimp only
  split
  · exact Or.inl ⟨rfl, by omega⟩
  · split
    · exact Or.inr ⟨rfl, by omega⟩
    · rcases Nat.mod_two_eq_zero_or_one (num / den) with hparity | hparity
      · exact Or.inl ⟨by omega, by omega⟩
      · exact Or.inr ⟨by omega, by omega⟩

/-- A quotient below the middle between two integers is not rounded to the upper one. -/
theorem roundDiv_le_of_lt {num den k : Nat} (h : 2 * num < (2 * k + 1) * den) :
    roundDiv num den ≤ k := by
  have hsplit := Nat.div_add_mod num den
  rcases roundDiv_cases num den with ⟨hround, -⟩ | ⟨hround, hhalf⟩
  · have hbelow : 2 * (num / den) * den < (2 * k + 1) * den := by
      rw [Nat.mul_assoc, Nat.mul_comm _ den]
      omega
    have := Nat.lt_of_mul_lt_mul_right hbelow
    omega
  · have hbelow : (2 * (num / den) + 1) * den < (2 * k + 1) * den := by
      rw [Nat.add_mul, Nat.mul_assoc, Nat.mul_comm _ den, Nat.one_mul]
      omega
    have := Nat.lt_of_mul_lt_mul_right hbelow
    omega

theorem roundDiv_mono {n m : Nat} (h : n ≤ m) (den : Nat) :
    roundDiv n den ≤ roundDiv m den := by
  rcases Nat.lt_or_eq_of_le (Nat.div_le_div_right h) with hless | hsame
  · exact (roundDiv_le n den).trans (hless.trans_le (le_roundDiv m den))
  · have hn := Nat.div_add_mod n den
    have hm := Nat.div_add_mod m den
    have hrest : n % den ≤ m % den := by
      rw [hsame] at hn
      omega
    simp only [roundDiv, hsame]
    split_ifs <;> omega

/-- A factor that a quotient can be reduced by makes no difference. -/
theorem roundDiv_mul_mul {k : Nat} (hk : 0 < k) (num den : Nat) :
    roundDiv (k * num) (k * den) = roundDiv num den := by
  simp only [roundDiv, Nat.mul_div_mul_left _ _ hk, Nat.mul_mod_mul_left,
    Nat.mul_left_comm 2 k, Nat.mul_lt_mul_left hk]

/-! ## Rounding to a magnitude -/

namespace Magnitude

open Binary64

variable {num den : Nat}

theorem exists_of_rounded_lt (h : rounded num den < limit) :
    ∃ size, ofRatio? num den = some size ∧ size.units = rounded num den := by
  rw [ofRatio?, dif_pos h]
  exact ⟨_, rfl, rfl⟩

theorem rounded_le (num den : Nat) :
    rounded num den ≤ twoPow (53 + spacing (num / den)) := by
  rw [twoPow_add]
  exact Nat.mul_le_mul_right _ (roundDiv_spacing_le num den)

theorem twoPow_le_of_spacing_pos {n : Nat} (h : 0 < spacing n) :
    twoPow (52 + spacing n) ≤ n := by
  have hlog : 52 + spacing n = n.log2 := by
    rw [spacing] at h ⊢
    omega
  have hne : n ≠ 0 := by
    rintro rfl
    cases h
  rw [hlog]
  exact Nat.log2_self_le hne

/-- Where magnitudes lie apart, a quotient has fifty-three bits to be rounded to. -/
theorem twoPow_le_rounded (h : 0 < spacing (num / den)) :
    twoPow (52 + spacing (num / den)) ≤ rounded num den := by
  have hquotient : twoPow 52 ≤ num / (den * twoPow (spacing (num / den))) := by
    rw [← Nat.div_div_eq_div_mul, Nat.le_div_iff_mul_le (twoPow_pos _), ← twoPow_add]
    exact twoPow_le_of_spacing_pos h
  rw [twoPow_add]
  exact Nat.mul_le_mul_right _ (hquotient.trans (le_roundDiv _ _))

theorem spacing_mono {n m : Nat} (h : n ≤ m) : spacing n ≤ spacing m := by
  have hlog : n.log2 ≤ m.log2 := by
    by_cases hn : n = 0
    · rw [hn, Nat.log2_zero]
      exact Nat.zero_le _
    · rw [Nat.le_log2 (by omega)]
      exact (Nat.log2_self_le hn).trans h
  exact Nat.sub_le_sub_right hlog 52

theorem twoPow_lt_twoPow {m n : Nat} (h : m < n) : twoPow m < twoPow n :=
  Nat.pow_lt_pow_right (by decide) h

theorem log2_twoPow (n : Nat) : (twoPow n).log2 = n :=
  Nat.log2_two_pow

/-- A larger quotient is not rounded to a smaller magnitude. -/
theorem rounded_mono {n m : Nat} (h : n ≤ m) (den : Nat) :
    rounded n den ≤ rounded m den := by
  rcases Nat.lt_or_eq_of_le (spacing_mono (Nat.div_le_div_right h)) with hless | hsame
  · calc
      rounded n den ≤ twoPow (53 + spacing (n / den)) := rounded_le n den
      _ ≤ twoPow (52 + spacing (m / den)) := twoPow_le_twoPow (by omega)
      _ ≤ rounded m den := twoPow_le_rounded (Nat.zero_lt_of_lt hless)
  · rw [rounded, rounded, hsame]
    exact Nat.mul_le_mul_right _ (roundDiv_mono h _)

/-- One is a magnitude. -/
theorem rounded_one_mul (h : 0 < den) : rounded (one * den) den = one := by
  have hquotient : one * den / den = one := Nat.mul_div_cancel one h
  have hspacing : spacing one = 1022 := by
    rw [spacing, one, log2_twoPow]
  have hone : one = twoPow 52 * twoPow 1022 := twoPow_add 52 1022
  have hnum : one * den = twoPow 52 * (den * twoPow 1022) := by
    rw [hone, Nat.mul_assoc, Nat.mul_comm den]
  rw [rounded, hquotient, hspacing, hnum,
    roundDiv_mul_right _ (Nat.mul_pos h (twoPow_pos 1022)), hone]

/-- A part of a whole is rounded to less than one unless less than one in `2 ^ 54` is
lacking. -/
theorem rounded_lt_one {part whole : Nat} (h : twoPow 54 * part < (twoPow 54 - 1) * whole) :
    rounded (part * one) whole < one := by
  have hpart : part < whole := by
    by_contra hwhole
    have hless := Nat.mul_le_mul_right whole (Nat.sub_le (twoPow 54) 1)
    have hmore := Nat.mul_le_mul_left (twoPow 54) (Nat.le_of_not_lt hwhole)
    omega
  have hquotient : part * one / whole < one := by
    rw [Nat.div_lt_iff_lt_mul (by omega), Nat.mul_comm one]
    exact Nat.mul_lt_mul_of_pos_right hpart (twoPow_pos _)
  have hspacing : spacing (part * one / whole) ≤ 1021 := by
    by_contra hlarge
    have hbits := twoPow_le_of_spacing_pos (n := part * one / whole) (by omega)
    have hone : one ≤ twoPow (52 + spacing (part * one / whole)) :=
      twoPow_le_twoPow (by omega)
    omega
  rcases Nat.lt_or_eq_of_le hspacing with hless | hsame
  · calc
      rounded (part * one) whole ≤ twoPow (53 + spacing (part * one / whole)) :=
        rounded_le _ _
      _ ≤ twoPow 1073 := twoPow_le_twoPow (by omega)
      _ < one := twoPow_lt_twoPow (by omega)
  · have hone : one = twoPow 53 * twoPow 1021 := twoPow_add 53 1021
    -- The quotient lies more than half a unit below `2 ^ 53` units.
    have hhalf : 2 * (part * one) <
        (2 * (twoPow 53 - 1) + 1) * (whole * twoPow 1021) := by
      have hunits : 2 * (part * twoPow 53) < (2 * (twoPow 53 - 1) + 1) * whole := by
        have hdouble : 2 * (part * twoPow 53) = twoPow 54 * part := by
          rw [Nat.mul_left_comm, Nat.mul_comm]
          rfl
        have hodd : 2 * (twoPow 53 - 1) + 1 = twoPow 54 - 1 := rfl
        rwa [hdouble, hodd]
      rw [hone, ← Nat.mul_assoc part, ← Nat.mul_assoc 2, ← Nat.mul_assoc _ whole]
      exact Nat.mul_lt_mul_of_pos_right hunits (twoPow_pos _)
    rw [rounded, hsame]
    calc
      roundDiv (part * one) (whole * twoPow 1021) * twoPow 1021 ≤
          (twoPow 53 - 1) * twoPow 1021 :=
        Nat.mul_le_mul_right _ (roundDiv_le_of_lt hhalf)
      _ < twoPow 53 * twoPow 1021 :=
        Nat.mul_lt_mul_of_pos_right (Nat.sub_one_lt_of_lt (twoPow_pos 53)) (twoPow_pos _)
      _ = one := hone.symm

/-! ## Natural numbers as reals -/

variable {n m : Nat}

/-- A natural number that is divided by the spacing around it is not rounded. -/
theorem rounded_of_dvd (h : twoPow (spacing n) ∣ n) : rounded n 1 = n := by
  have hround : roundDiv n (twoPow (spacing n)) = n / twoPow (spacing n) := by
    calc
      roundDiv n (twoPow (spacing n)) =
          roundDiv (n / twoPow (spacing n) * twoPow (spacing n)) (twoPow (spacing n)) := by
        rw [Nat.div_mul_cancel h]
      _ = n / twoPow (spacing n) := roundDiv_mul_right _ (twoPow_pos _)
  rw [rounded, Nat.div_one, Nat.one_mul, hround, Nat.div_mul_cancel h]

theorem spacing_of_lt (h : n < twoPow 53) : spacing n = 0 := by
  by_contra hspacing
  have hbits := twoPow_le_of_spacing_pos (Nat.pos_of_ne_zero hspacing)
  have hmore : twoPow 53 ≤ twoPow (52 + spacing n) := twoPow_le_twoPow (by omega)
  omega

/-- Natural numbers up to `2 ^ 53` are reals. -/
theorem rounded_of_le (h : n ≤ twoPow 53) : rounded n 1 = n := by
  apply rounded_of_dvd
  rcases Nat.lt_or_eq_of_le h with hless | rfl
  · rw [spacing_of_lt hless]
    exact Nat.one_dvd n
  · rw [spacing, log2_twoPow]
    exact Nat.pow_dvd_pow 2 (by decide)

/-- What is taken for a real can be doubled before or after that. -/
theorem two_mul_rounded (n : Nat) : 2 * rounded n 1 = rounded (2 * n) 1 := by
  have hdouble : twoPow 53 = 2 * twoPow 52 := twoPow_add 1 52
  by_cases hsmall : n < twoPow 52
  · rw [rounded_of_le (by omega), rounded_of_le (by omega)]
  · have hpos : 0 < twoPow 52 := twoPow_pos 52
    have hlog : 52 ≤ n.log2 := (Nat.le_log2 (by omega)).mpr (Nat.le_of_not_lt hsmall)
    have hspacing : spacing (2 * n) = 1 + spacing n := by
      rw [spacing, spacing, Nat.log2_two_mul (by omega)]
      omega
    have hpow : twoPow (1 + spacing n) = 2 * twoPow (spacing n) := twoPow_add 1 _
    rw [rounded, rounded, Nat.div_one, Nat.div_one, hspacing, hpow, Nat.one_mul,
      Nat.one_mul, roundDiv_mul_mul (by decide), Nat.mul_left_comm]

/-- A natural number is not taken for less than a smaller one up to `2 ^ 53`. -/
theorem le_rounded_of_le (h : m ≤ twoPow 53) (hmn : m ≤ n) : m ≤ rounded n 1 := by
  calc
    m = rounded m 1 := (rounded_of_le h).symm
    _ ≤ rounded n 1 := rounded_mono hmn 1

theorem rounded_pos (h : 0 < n) : 0 < rounded n 1 :=
  le_rounded_of_le (twoPow_pos 53) h

end Magnitude

end Autopilot
