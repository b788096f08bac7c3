import Autopilot.Proofs.Number.Range

/-!
# Equality up to a tolerance

Two numbers are compared for equality and for inequality by their difference.  If the
difference and the tolerance are numbers, one of the two relations holds and the other one
does not.  The difference is no number only if one of the two is no number, or if both are
the same infinity: then neither relation holds.  Nor does one hold if the tolerance is no
number, which is not ruled out because what is no number is not zero or less.
-/

namespace Autopilot

/-! ## The order of numbers -/

namespace Number

variable {a b : Number}

theorem exact_nan : (real .nan).exact = .undefined := rfl

theorem exact_zero : zero.exact = .units 0 :=
  congrArg ExactValue.units (Int.zero_mul _)

theorem exact_real_zero : (real .zero).exact = .units 0 := rfl

theorem exact_eq_undefined_iff : a.exact = .undefined ↔ a = .real .nan := by
  rcases a with n | (_ | (_ | _) | ⟨negative, size⟩)
  · exact iff_of_false nofun nofun
  · exact iff_of_true exact_nan rfl
  · exact iff_of_false nofun nofun
  · exact iff_of_false nofun nofun
  · exact iff_of_false nofun nofun

/-- Of two numbers the first one lies below the second one, or the second one is at most
the first one. -/
theorem le_eq_not_lt (ha : a ≠ .real .nan) (hb : b ≠ .real .nan) : b.le a = !a.lt b := by
  have hexactA := mt exact_eq_undefined_iff.mp ha
  have hexactB := mt exact_eq_undefined_iff.mp hb
  simp [le, lt, ExactValue.le, hexactA, hexactB]

/-- What is no number is in no relation. -/
theorem nan_lt (b : Number) : (real .nan).lt b = false := by
  rw [lt, exact_nan, ExactValue.lt]

theorem lt_nan (a : Number) : a.lt (real .nan) = false := by
  rw [lt, exact_nan]
  cases a.exact with
  | _ => rfl

theorem le_nan (a : Number) : a.le (.real .nan) = false := by
  rw [le, exact_nan, ExactValue.le]
  simp only [bne_self_eq_false, Bool.and_false, Bool.false_and]

theorem nan_le (b : Number) : (real .nan).le b = false := by
  rw [le, exact_nan, ExactValue.le]
  simp only [bne_self_eq_false, Bool.false_and]

end Number

/-- A tolerance that is a number is greater than zero. -/
theorem Tolerance.zero_lt_epsilon {tolerance : Tolerance}
    (h : tolerance.epsilon ≠ .real .nan) : Number.zero.lt tolerance.epsilon = true := by
  have hzero : Number.zero ≠ .real .nan := nofun
  have hle : tolerance.epsilon.le .zero = !Number.zero.lt tolerance.epsilon :=
    Number.le_eq_not_lt hzero h
  have hnot : tolerance.epsilon.le .zero = false := tolerance.not_le_zero
  rw [hnot] at hle
  simpa using hle.symm

/-! ## Differences -/

/-- The difference of two reals is no number if one of them is none, or if both are the
same infinity. -/
theorem Binary64.distance_eq_nan_iff {x y : Binary64} :
    distance x y = nan ↔
      x = nan ∨ y = nan ∨ ∃ negative, x = infinite negative ∧ y = infinite negative := by
  have hmagnitude : ∀ size, ofMagnitude? false size ≠ nan := by
    rintro (_ | size)
    · simp [ofMagnitude?]
    · simp [ofMagnitude?]
  rcases x with _ | a | ⟨a, size⟩
  · simp [distance]
  · rcases y with _ | b | ⟨b, size⟩
    · simp [distance]
    · by_cases h : a = b
      · simp [distance, h]
      · simp [distance, h, Ne.symm h]
    · simp [distance]
  · rcases y with _ | b | ⟨b, size'⟩
    · simp [distance]
    · simp [distance]
    · simp [distance, hmagnitude]

/-- A whole number that is taken for a real is a finite one. -/
theorem Binary64.exists_finite_of_ofInt? {n : Int} {x : Binary64} (h : ofInt? n = some x) :
    ∃ negative size, x = finite negative size := by
  obtain ⟨size, -, hx⟩ := Option.map_eq_some_iff.mp h
  exact ⟨_, size, hx.symm⟩

namespace Number

variable {a b d : Number} {x : Binary64}

theorem toReal_eq_ok_iff_of_int {n : Int} :
    (int n).toReal = .ok x ↔ Binary64.ofInt? n = some x := by
  rw [toReal]
  rcases Binary64.ofInt? n with _ | y
  · simp
  · simp

/-- A number that is taken for a real is no number only if it was none before. -/
theorem eq_of_toReal_nan (h : a.toReal = .ok .nan) : a = .real .nan := by
  rcases a with n | x
  · obtain ⟨negative, size, hfinite⟩ :=
      Binary64.exists_finite_of_ofInt? (toReal_eq_ok_iff_of_int.mp h)
    simp at hfinite
  · obtain rfl : x = .nan := by simpa [toReal] using h
    rfl

/-- A number that is taken for an infinity was one before. -/
theorem eq_of_toReal_infinite {negative : Bool} (h : a.toReal = .ok (.infinite negative)) :
    a = .real (.infinite negative) := by
  rcases a with n | x
  · obtain ⟨sign, size, hfinite⟩ :=
      Binary64.exists_finite_of_ofInt? (toReal_eq_ok_iff_of_int.mp h)
    simp at hfinite
  · obtain rfl : x = .infinite negative := by simpa [toReal] using h
    rfl

/-- Unless both numbers are whole their difference is taken between reals. -/
theorem distance_eq_bind (h : ¬ ∃ m n, a = int m ∧ b = int n) :
    a.distance b = a.toReal.bind fun x => b.toReal.bind fun y =>
      .ok (real (Binary64.distance x y)) := by
  rcases a with m | x
  · rcases b with n | y
    · exact absurd ⟨m, n, rfl, rfl⟩ h
    · rfl
  · rfl

/-- The ways of taking a difference, in either order: exactly, between reals, or not at
all because a whole number is too large. -/
theorem distance_cases (a b : Number) :
    (∃ m n, a = int m ∧ b = int n ∧
      a.distance b = .ok (int ((m - n).natAbs : Int)) ∧
      b.distance a = .ok (int ((m - n).natAbs : Int))) ∨
    (∃ x y, a.toReal = .ok x ∧ b.toReal = .ok y ∧
      a.distance b = .ok (real (Binary64.distance x y)) ∧
      b.distance a = .ok (real (Binary64.distance x y))) ∨
    (a.distance b = .error .numberOverflow ∧ b.distance a = .error .numberOverflow) := by
  by_cases hwhole : ∃ m n, a = int m ∧ b = int n
  · obtain ⟨m, n, rfl, rfl⟩ := hwhole
    have hcomm : (n - m).natAbs = (m - n).natAbs := by
      rw [← Int.natAbs_neg, Int.neg_sub]
    exact Or.inl ⟨m, n, rfl, rfl, rfl, by rw [distance, hcomm]⟩
  · have hwhole' : ¬ ∃ m n, b = int m ∧ a = int n := by
      rintro ⟨m, n, hb, ha⟩
      exact hwhole ⟨n, m, ha, hb⟩
    rw [distance_eq_bind hwhole, distance_eq_bind hwhole']
    rcases a.toReal_cases with ⟨x, hx⟩ | hx
    · rcases b.toReal_cases with ⟨y, hy⟩ | hy
      · refine Or.inr (Or.inl ⟨x, y, hx, hy, ?_, ?_⟩)
        · simp [hx, hy, Except.bind]
        · simp [hx, hy, Except.bind, Binary64.distance_comm x y]
      · exact Or.inr (Or.inr (by simp [hx, hy, Except.bind]))
    · rcases b.toReal_cases with ⟨y, hy⟩ | hy
      · exact Or.inr (Or.inr (by simp [hx, hy, Except.bind]))
      · exact Or.inr (Or.inr (by simp [hx, hy, Except.bind]))

theorem distance_comm (a b : Number) : a.distance b = b.distance a := by
  rcases distance_cases a b with
    ⟨m, n, -, -, hab, hba⟩ | ⟨x, y, -, -, hab, hba⟩ | ⟨hab, hba⟩
  · rw [hab, hba]
  · rw [hab, hba]
  · rw [hab, hba]

/-- The infinities. -/
def infinity (negative : Bool) : Number :=
  real (.infinite negative)

/-- Two numbers are one and the same infinity. -/
def AreSameInfinity (a b : Number) : Prop :=
  ∃ negative, a = infinity negative ∧ b = infinity negative

/-- Numbers have a difference that is a number, unless both are the same infinity. -/
theorem ne_nan_of_distance (ha : a ≠ .real .nan) (hb : b ≠ .real .nan)
    (hsame : ¬ AreSameInfinity a b) (hd : a.distance b = .ok d) : d ≠ .real .nan := by
  rintro rfl
  rcases distance_cases a b with
    ⟨m, n, -, -, hab, -⟩ | ⟨x, y, hx, hy, hab, -⟩ | ⟨hab, -⟩
  · simp [hab] at hd
  · have hnan : Binary64.distance x y = .nan := by simpa [hab] using hd
    rcases Binary64.distance_eq_nan_iff.mp hnan with rfl | rfl | ⟨negative, rfl, rfl⟩
    · exact ha (eq_of_toReal_nan hx)
    · exact hb (eq_of_toReal_nan hy)
    · exact hsame ⟨negative, eq_of_toReal_infinite hx, eq_of_toReal_infinite hy⟩
  · simp [hab] at hd

theorem distance_infinity (negative : Bool) :
    (infinity negative).distance (infinity negative) = .ok (.real .nan) := by
  simp [infinity, distance, toReal, Binary64.distance, bind, Except.bind, pure, Except.pure]

/-- A finite number has no distance from itself. -/
theorem distance_self (ha : a ≠ .real .nan) (hfinite : ∀ negative, a ≠ infinity negative) :
    ∃ d, a.distance a = .ok d ∧ d.exact = zero.exact := by
  rcases a with n | (_ | negative | ⟨negative, size⟩)
  · refine ⟨int 0, ?_, rfl⟩
    simp [distance]
  · exact absurd rfl ha
  · exact absurd rfl (hfinite negative)
  · have hzero : Magnitude.ofRatio? 0 1 = some Magnitude.zero := by decide +kernel
    refine ⟨real .zero, ?_, ?_⟩
    · simp [distance, toReal, Binary64.distance, hzero, Binary64.ofMagnitude?, bind,
        Except.bind, pure, Except.pure, Binary64.zero]
    · exact exact_real_zero.trans exact_zero.symm

end Number

/-! ## Equality and inequality -/

namespace Comparator

open Number

variable {left right d : Number}

theorem compare_equal_of_distance (h : left.distance right = .ok d) (epsilon : Number) :
    equal.compare left right epsilon = .ok (d.lt epsilon) := by
  rw [compare, h]
  rfl

theorem compare_notEqual_of_distance (h : left.distance right = .ok d)
    (epsilon : Number) : notEqual.compare left right epsilon = .ok (epsilon.le d) := by
  rw [compare, h]
  rfl

theorem compare_of_distance_error {fault : Fault}
    (h : left.distance right = .error fault) (epsilon : Number) :
    equal.compare left right epsilon = .error fault ∧
      notEqual.compare left right epsilon = .error fault := by
  constructor
  · rw [compare, h]
    rfl
  · rw [compare, h]
    rfl

theorem compare_equal_comm (left right epsilon : Number) :
    equal.compare left right epsilon = equal.compare right left epsilon := by
  rw [compare, compare, distance_comm]

theorem compare_notEqual_comm (left right epsilon : Number) :
    notEqual.compare left right epsilon = notEqual.compare right left epsilon := by
  rw [compare, compare, distance_comm]

/-- An infinity has no distance from itself, and counts neither as equal to itself nor as
unequal. -/
theorem compare_infinity (negative : Bool) (epsilon : Number) :
    equal.compare (infinity negative) (infinity negative) epsilon = .ok false ∧
      notEqual.compare (infinity negative) (infinity negative) epsilon = .ok false := by
  have hdistance := distance_infinity negative
  constructor
  · rw [compare_equal_of_distance hdistance, nan_lt]
  · rw [compare_notEqual_of_distance hdistance, le_nan]

/-- A difference is neither less than a tolerance that is no number nor at least as
large. -/
theorem compare_nan (left right : Number) :
    (∃ fault, equal.compare left right (.real .nan) = .error fault ∧
      notEqual.compare left right (.real .nan) = .error fault) ∨
      (equal.compare left right (.real .nan) = .ok false ∧
        notEqual.compare left right (.real .nan) = .ok false) := by
  rcases hdistance : left.distance right with fault | d
  · exact Or.inl ⟨fault, compare_of_distance_error hdistance _⟩
  · right
    rw [compare_equal_of_distance hdistance, compare_notEqual_of_distance hdistance, lt_nan,
      nan_le]
    exact ⟨rfl, rfl⟩

/-- Whatever tolerance there is, two numbers cannot be compared at all, which equality and
inequality report alike, or exactly one of the two holds, with two exceptions: neither
holds between an infinity and itself, and neither holds if the tolerance is no number.
Apart from these, every number is equal to itself.  Neither relation depends on the order
of the numbers. -/
theorem compare_equal_notEqual (tolerance : Tolerance) {left right : Number}
    (hleft : left ≠ .real .nan) (hright : right ≠ .real .nan) :
    let epsilon := tolerance.epsilon
    let equals := equal.compare left right epsilon
    let differs := notEqual.compare left right epsilon
    (AreSameInfinity left right → equals = .ok false ∧ differs = .ok false) ∧
    (epsilon = .real .nan →
      (∃ fault, equals = .error fault ∧ differs = .error fault) ∨
        equals = .ok false ∧ differs = .ok false) ∧
    (¬ AreSameInfinity left right → epsilon ≠ .real .nan →
      (∃ fault, equals = .error fault ∧ differs = .error fault) ∨
        ∃ value, equals = .ok value ∧ differs = .ok !value) ∧
    ((∀ negative, left ≠ infinity negative) → epsilon ≠ .real .nan →
      equal.compare left left epsilon = .ok true) ∧
    equal.compare right left epsilon = equals ∧
    notEqual.compare right left epsilon = differs := by
  intro epsilon equals differs
  refine ⟨?_, ?_, ?_, ?_, compare_equal_comm _ _ _, compare_notEqual_comm _ _ _⟩
  · rintro ⟨negative, rfl, rfl⟩
    exact compare_infinity negative epsilon
  · intro hepsilon
    have hnan := compare_nan left right
    rwa [← hepsilon] at hnan
  · intro hsame hepsilon
    rcases hdistance : left.distance right with fault | d
    · exact Or.inl ⟨fault, compare_of_distance_error hdistance epsilon⟩
    · have hd := ne_nan_of_distance hleft hright hsame hdistance
      refine Or.inr ⟨d.lt epsilon, compare_equal_of_distance hdistance epsilon, ?_⟩
      rw [← le_eq_not_lt hd hepsilon]
      exact compare_notEqual_of_distance hdistance epsilon
  · intro hfinite hepsilon
    obtain ⟨d, hdistance, hd⟩ := distance_self hleft hfinite
    have hbelow : d.lt epsilon = true := by
      rw [lt, hd]
      exact Tolerance.zero_lt_epsilon hepsilon
    rw [← hbelow]
    exact compare_equal_of_distance hdistance epsilon

/-- Whole numbers that are too large for a real are compared exactly. -/
theorem compare_equal_notEqual_of_large :
    let epsilon := Tolerance.thousandth.epsilon
    let large := int ((tenPow 400 : Nat) : Int)
    large ≠ .real .nan ∧ int 7 ≠ .real .nan ∧
    (∃ value, equal.compare large (int 7) epsilon = .ok value ∧
      notEqual.compare large (int 7) epsilon = .ok !value) ∧
    equal.compare large large epsilon = .ok true ∧
    equal.compare (int 7) large epsilon = equal.compare large (int 7) epsilon := by
  intro epsilon large
  have hlarge : large ≠ .real .nan := by simp [large]
  have hseven : int 7 ≠ .real .nan := by simp
  have hepsilon : epsilon ≠ .real .nan := by decide +kernel
  have hfinite : ∀ negative, large ≠ infinity negative := by simp [large, infinity]
  have hsame : ¬ AreSameInfinity large (int 7) := by
    rintro ⟨negative, hinfinite, -⟩
    exact hfinite negative hinfinite
  obtain ⟨-, -, hone, hself, hcomm, -⟩ :=
    compare_equal_notEqual Tolerance.thousandth hlarge hseven
  refine ⟨hlarge, hseven, ?_, hself hfinite hepsilon, hcomm⟩
  rcases hone hsame hepsilon with ⟨fault, herror, -⟩ | hone
  · have hdistance : large.distance (int 7) = .ok _ := rfl
    rw [compare_equal_of_distance hdistance] at herror
    cases herror
  · exact hone

/-- That one of the two relations holds, and that everything is equal to itself, fails at
an infinity, and it fails everywhere if the tolerance is no number. -/
theorem neither_equal_nor_unequal :
    let top := infinity false
    let epsilon := Tolerance.thousandth.epsilon
    (top ≠ .real .nan ∧ equal.compare top top epsilon = .ok false ∧
      notEqual.compare top top epsilon = .ok false) ∧
    ∃ tolerance, Tolerance.ofNumber (.real .nan) = .ok tolerance ∧
      equal.compare (int 1) (int 1) tolerance.epsilon = .ok false ∧
      notEqual.compare (int 1) (int 1) tolerance.epsilon = .ok false := by
  intro top epsilon
  constructor
  · refine ⟨?_, compare_infinity false epsilon⟩
    simp [top, infinity]
  · refine ⟨⟨.real .nan, nan_le _⟩, rfl, ?_⟩
    rcases compare_nan (int 1) (int 1) with ⟨fault, herror, -⟩ | hneither
    · cases herror
    · exact hneither

end Comparator

end Autopilot
