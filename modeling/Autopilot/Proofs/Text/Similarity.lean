import Autopilot.Proofs.Number.Rounding
import Autopilot.Proofs.Text.Blocks
import Mathlib.Data.List.Lattice
import Mathlib.Data.List.Perm.Subperm

/-!
# Similarity

Similarity counts the characters in common blocks and rounds a quotient, after it has
rounded what it divides.  Rounding keeps the order of numbers, so that a text is wholly
similar to itself, and up to a length to no other text.

Two estimates are never too low: the length of the shorter text, and the number of
characters that two texts share without regard to their places.
-/

namespace Autopilot.Text

/-! ## Rounded quotients -/

/-- A ratio counted in smallest magnitudes. -/
def ratioUnits (count total : Nat) : Nat :=
  if total = 0 then Binary64.one
  else
    Magnitude.rounded (2 * Magnitude.rounded count 1 * Binary64.one)
      (Magnitude.rounded total 1)

section Ratio

open Binary64

variable {count count' total : Nat}

theorem ratioUnits_mono (h : count ≤ count') (total : Nat) :
    ratioUnits count total ≤ ratioUnits count' total := by
  rw [ratioUnits, ratioUnits]
  split
  · exact Nat.le_refl _
  · have hcount := Nat.mul_le_mul_left 2 (Magnitude.rounded_mono h 1)
    exact Magnitude.rounded_mono (Nat.mul_le_mul_right _ hcount) _

/-- Numbers that are taken for one real have the ratio one. -/
theorem ratioUnits_of_rounded_eq
    (h : 2 * Magnitude.rounded count 1 = Magnitude.rounded total 1) :
    ratioUnits count total = one := by
  rw [ratioUnits, h]
  split
  · rfl
  · rename_i hne
    rw [Nat.mul_comm]
    exact Magnitude.rounded_one_mul (Magnitude.rounded_pos (Nat.pos_of_ne_zero hne))

theorem ratioUnits_of_eq (h : 2 * count = total) : ratioUnits count total = one :=
  ratioUnits_of_rounded_eq (by rw [Magnitude.two_mul_rounded, h])

/-- A part of a whole has a ratio below one as long as it is taken for itself: the whole is
taken for more. -/
theorem ratioUnits_lt_one (hcount : 2 * count < twoPow 53) (h : 2 * count < total) :
    ratioUnits count total < one := by
  have htotal : total ≠ 0 := by omega
  have hwhole : 2 * count + 1 ≤ Magnitude.rounded total 1 :=
    Magnitude.le_rounded_of_le hcount h
  have hpart : 2 * Magnitude.rounded count 1 = 2 * count := by
    rw [Magnitude.rounded_of_le (by omega)]
  rw [ratioUnits, if_neg htotal, hpart]
  apply Magnitude.rounded_lt_one
  have hpow : twoPow 54 = 18014398509481984 := rfl
  have hpow' : twoPow 53 = 9007199254740992 := rfl
  rw [hpow]
  omega

theorem ratioUnits_le_one (h : 2 * count ≤ total) : ratioUnits count total ≤ one := by
  rw [ratioUnits]
  split
  · exact Nat.le_refl _
  · rename_i hne
    have hpart : 2 * Magnitude.rounded count 1 ≤ Magnitude.rounded total 1 := by
      rw [Magnitude.two_mul_rounded]
      exact Magnitude.rounded_mono h 1
    calc
      Magnitude.rounded (2 * Magnitude.rounded count 1 * one) (Magnitude.rounded total 1) ≤
          Magnitude.rounded (one * Magnitude.rounded total 1) (Magnitude.rounded total 1) := by
        rw [Nat.mul_comm one]
        exact Magnitude.rounded_mono (Nat.mul_le_mul_right one hpart) _
      _ = one :=
        Magnitude.rounded_one_mul (Magnitude.rounded_pos (Nat.pos_of_ne_zero hne))

/-- A part of a whole has a ratio in range. -/
theorem exact_ratio (h : 2 * count ≤ total) :
    (ratio count total).exact = .units (ratioUnits count total) := by
  have hlimit : ratioUnits count total < limit :=
    (ratioUnits_le_one h).trans_lt (Magnitude.twoPow_lt_twoPow (by decide))
  rw [ratio, ratioUnits]
  rw [ratioUnits] at hlimit
  by_cases htotal : total = 0
  · have hdecimal : Magnitude.ofDecimal? 1 0 =
        Magnitude.ofRatio? (one * tenPow 0) (tenPow 0) := by
      rw [Magnitude.ofDecimal?, Int.neg_zero, Int.toNat_zero, Nat.one_mul, Nat.mul_comm]
    have hone := Magnitude.rounded_one_mul (tenPow_pos 0)
    rw [if_pos htotal] at hlimit
    obtain ⟨size, hsize, hunits⟩ := Magnitude.exists_of_rounded_lt (hone.trans_lt hlimit)
    rw [if_pos htotal, if_pos htotal, ofDecimal, hdecimal, hsize, ← hunits.trans hone]
    rfl
  · rw [if_neg htotal] at hlimit
    obtain ⟨size, hsize, hunits⟩ := Magnitude.exists_of_rounded_lt hlimit
    rw [if_neg htotal, if_neg htotal, hsize, ← hunits]
    rfl

/-- What is at most a number is at most every larger one. -/
theorem le_real_trans {cutoff : Number} {x y : Binary64} {m n : Int}
    (h : cutoff.le (.real x) = true) (hx : x.exact = .units m) (hy : y.exact = .units n)
    (hmn : m ≤ n) : cutoff.le (.real y) = true := by
  rw [Number.le, Number.exact, ExactValue.le, hx] at h
  rw [Number.le, Number.exact, ExactValue.le, hy]
  cases hcutoff : cutoff.exact with
  | units k =>
      simp only [hcutoff, ExactValue.lt] at h ⊢
      simp at h ⊢
      omega
  | _ => simp_all [ExactValue.lt]

end Ratio

/-! ## Estimates of the similarity -/

/-- The number of characters in common blocks of a candidate and a target. -/
def sharedCount (candidate target : String) : Nat :=
  commonCount (fun c => !(popular target.toList).contains c) candidate.toList
    target.toList

/-- The number of all characters of two texts. -/
def totalLength (candidate target : String) : Nat :=
  candidate.toList.length + target.toList.length

/-- The similarity of two texts counted in smallest magnitudes. -/
def similarityUnits (candidate target : String) : Nat :=
  ratioUnits (sharedCount candidate target) (totalLength candidate target)

/-- The similarity if all characters of the shorter text were in common blocks. -/
def lengthEstimate (candidate target : String) : Binary64 :=
  ratio (min candidate.toList.length target.toList.length) (totalLength candidate target)

/-- The similarity if all characters that two texts share were in common blocks. -/
def characterEstimate (candidate target : String) : Binary64 :=
  ratio (candidate.toList.bagInter target.toList).length (totalLength candidate target)

section Estimates

variable {candidate target : String} {cutoff : Number}

theorem similarity_eq (candidate target : String) :
    similarity candidate target =
      ratio (sharedCount candidate target) (totalLength candidate target) :=
  rfl

theorem sharedCount_le_left (candidate target : String) :
    sharedCount candidate target ≤ candidate.toList.length :=
  commonCount_le_left ..

theorem sharedCount_le_right (candidate target : String) :
    sharedCount candidate target ≤ target.toList.length :=
  commonCount_le_right ..

theorem two_mul_sharedCount_le (candidate target : String) :
    2 * sharedCount candidate target ≤ totalLength candidate target := by
  have hleft := sharedCount_le_left candidate target
  have hright := sharedCount_le_right candidate target
  rw [totalLength]
  omega

theorem exact_similarity (candidate target : String) :
    (similarity candidate target).exact = .units (similarityUnits candidate target) := by
  rw [similarity_eq]
  exact exact_ratio (two_mul_sharedCount_le candidate target)

theorem sharedCount_le_bagInter (candidate target : String) :
    sharedCount candidate target ≤
      (candidate.toList.bagInter target.toList).length := by
  obtain ⟨common, hleft, hright, hlength⟩ := exists_sublist_commonCount
    (fun c => !(popular target.toList).contains c) candidate.toList target.toList
  rw [sharedCount, ← hlength]
  apply List.Subperm.length_le
  rw [List.subperm_ext_iff]
  intro c _
  rw [List.count_bagInter]
  exact le_min (hleft.count_le c) (hright.count_le c)

theorem length_bagInter_le (cs ds : List Char) :
    (cs.bagInter ds).length ≤ min cs.length ds.length := by
  have hright : (cs.bagInter ds).length ≤ ds.length := by
    apply List.Subperm.length_le
    rw [List.subperm_ext_iff]
    intro c _
    rw [List.count_bagInter]
    exact min_le_right _ _
  exact le_min List.bagInter_sublist_left.length_le hright

/-- A candidate that is similar enough is not ruled out by its shared characters. -/
theorem le_characterEstimate (h : cutoff.le (.real (similarity candidate target)) = true) :
    cutoff.le (.real (characterEstimate candidate target)) = true := by
  have hbound := length_bagInter_le candidate.toList target.toList
  apply le_real_trans h (exact_similarity candidate target)
    (exact_ratio (by rw [totalLength]; omega))
  exact Int.ofNat_le.mpr (ratioUnits_mono (sharedCount_le_bagInter candidate target) _)

/-- Nor is it ruled out by its length. -/
theorem le_lengthEstimate (h : cutoff.le (.real (similarity candidate target)) = true) :
    cutoff.le (.real (lengthEstimate candidate target)) = true := by
  have hshared := (sharedCount_le_bagInter candidate target).trans
    (length_bagInter_le candidate.toList target.toList)
  apply le_real_trans h (exact_similarity candidate target)
    (exact_ratio (by rw [totalLength]; omega))
  exact Int.ofNat_le.mpr (ratioUnits_mono hshared _)

theorem similarityUnits_self (text : String) :
    similarityUnits text text = Binary64.one := by
  apply ratioUnits_of_eq
  rw [sharedCount, commonCount_self, totalLength, Nat.two_mul]

/-- Only a text itself is wholly similar to a text of less than `2 ^ 52` characters. -/
theorem eq_of_one_le_similarityUnits (htarget : target.toList.length < twoPow 52)
    (h : Binary64.one ≤ similarityUnits candidate target) : candidate = target := by
  have hle := two_mul_sharedCount_le candidate target
  have hright := sharedCount_le_right candidate target
  have hdouble : twoPow 53 = 2 * twoPow 52 := twoPow_add 1 52
  have hall : ¬ 2 * sharedCount candidate target < totalLength candidate target := by
    intro hless
    have hpart : 2 * sharedCount candidate target < twoPow 53 := by omega
    have := ratioUnits_lt_one hpart hless
    rw [similarityUnits] at h
    omega
  apply String.toList_inj.mp
  exact eq_of_commonCount (Nat.le_antisymm hle (Nat.le_of_not_lt hall))

end Estimates

end Autopilot.Text
