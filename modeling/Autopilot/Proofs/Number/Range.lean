import Autopilot.Number.Decimal
import Autopilot.Tick.Comparison

/-!
# Numbers in the range of the reals

A whole number may be too large to be taken for a real.  One that is not can be written
and compared with every other one, and so can every real, infinite or no number.
-/

namespace Autopilot

namespace Number

/-- A number is a real, or a whole number that can be taken for one. -/
def InRange (number : Number) : Prop :=
  ∃ x, number.toReal = .ok x

theorem inRange_real (x : Binary64) : (real x).InRange :=
  ⟨x, rfl⟩

theorem inRange_int_iff {n : Int} :
    (int n).InRange ↔ (Binary64.ofInt? n).isSome = true := by
  rw [InRange, toReal]
  cases Binary64.ofInt? n with
  | none => simp
  | some x => simp

/-- Taking a number for a real fails in one way only. -/
theorem toReal_cases (a : Number) :
    (∃ x, a.toReal = .ok x) ∨ a.toReal = .error .numberOverflow := by
  rcases a with n | x
  · rcases hn : Binary64.ofInt? n with _ | x
    · exact Or.inr (by simp [toReal, hn])
    · exact Or.inl ⟨x, by simp [toReal, hn]⟩
  · exact Or.inl ⟨x, rfl⟩

variable {a b : Number}

theorem InRange.exists_briefText (h : a.InRange) : ∃ text, a.briefText = .ok text := by
  obtain ⟨x, hx⟩ := h
  rw [briefText, hx]
  exact ⟨_, rfl⟩

theorem InRange.exists_fixedText (h : a.InRange) : ∃ text, a.fixedText = .ok text := by
  obtain ⟨x, hx⟩ := h
  rw [fixedText, hx]
  exact ⟨_, rfl⟩

theorem InRange.exists_distance (ha : a.InRange) (hb : b.InRange) :
    ∃ d, a.distance b = .ok d := by
  obtain ⟨x, hx⟩ := ha
  obtain ⟨y, hy⟩ := hb
  have hreal : (do
      let x ← a.toReal
      let y ← b.toReal
      return Number.real (Binary64.distance x y)) =
        (.ok (.real (Binary64.distance x y)) : Except Fault Number) := by
    rw [hx, hy]
    rfl
  cases a with
  | real _ => exact ⟨_, hreal⟩
  | int m =>
      cases b with
      | real _ => exact ⟨_, hreal⟩
      | int n => exact ⟨_, rfl⟩

end Number

/-- Two numbers in range can be compared, however large the tolerance is. -/
theorem Comparator.exists_compare (comparator : Comparator) {left right : Number}
    (hleft : left.InRange) (hright : right.InRange) (epsilon : Number) :
    ∃ result, comparator.compare left right epsilon = .ok result := by
  obtain ⟨d, hd⟩ := hleft.exists_distance hright
  cases comparator with
  | equal =>
      rw [compare, hd]
      exact ⟨_, rfl⟩
  | notEqual =>
      rw [compare, hd]
      exact ⟨_, rfl⟩
  | _ => exact ⟨_, rfl⟩

end Autopilot
