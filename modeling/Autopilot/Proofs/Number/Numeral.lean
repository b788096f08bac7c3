import Autopilot.Number.Numeral
import Autopilot.Proofs.Lexer.Leading
import Mathlib.Data.List.TakeWhile

/-!
# The numerals of scripts

The numerals that a script may hold, digits and digits on both sides of a point, are
read as numbers.  Nothing has to be trimmed, joined or narrowed in them, and they start
neither with a sign nor with a letter.
-/

namespace Autopilot

namespace Numeral

open Text

/-- The characters of the numerals of scripts. -/
def IsPlain (c : Char) : Prop :=
  isDigit c = true ∨ c = '.'

theorem isPlain_of_isNumeral {cs : List Char} (h : IsNumeral cs) :
    ∀ c ∈ cs, IsPlain c := by
  intro c hc
  rcases h with h | ⟨whole, fraction, rfl, hwhole, hfraction⟩
  · obtain ⟨-, -, -, -, hall⟩ := exists_of_areDigits h
    exact Or.inl (hall c hc)
  · obtain ⟨-, -, -, -, hwholeAll⟩ := exists_of_areDigits hwhole
    obtain ⟨-, -, -, -, hfractionAll⟩ := exists_of_areDigits hfraction
    rcases List.mem_append.mp hc with hc | hc
    · exact Or.inl (hwholeAll c hc)
    · rcases List.mem_cons.mp hc with rfl | hc
      · exact Or.inr rfl
      · exact Or.inl (hfractionAll c hc)

/-- The code points of plain characters. -/
theorem IsPlain.toNat {c : Char} (h : IsPlain c) :
    (48 ≤ c.toNat ∧ c.toNat ≤ 57) ∨ c.toNat = 46 := by
  rcases h with h | rfl
  · simp only [isDigit, Bool.and_eq_true, decide_eq_true_eq] at h
    exact Or.inl h
  · exact Or.inr rfl

theorem not_isPlain_of_toNat {c : Char} (h : c.toNat < 46 ∨ 57 < c.toNat) : ¬ IsPlain c := by
  intro hc
  rcases hc.toNat with hc | hc
  · omega
  · omega

/-! ## What reading a numeral leaves alone -/

theorem narrow?_of_isPlain {c : Char} (h : IsPlain c) : narrow? c = some c := by
  rw [narrow?, if_pos]
  rcases h.toNat with hc | hc
  · omega
  · omega

theorem mapM_narrow?_of_isPlain {cs : List Char} (h : ∀ c ∈ cs, IsPlain c) :
    cs.mapM narrow? = some cs := by
  induction cs with
  | nil => rfl
  | cons c cs ih =>
      obtain ⟨hc, hrest⟩ := List.forall_mem_cons.mp h
      rw [List.mapM_cons, narrow?_of_isPlain hc, ih hrest]
      rfl

theorem joinDigits?_of_isPlain {cs : List Char} (h : ∀ c ∈ cs, IsPlain c)
    (afterDigit : Bool) : joinDigits? afterDigit cs = some cs := by
  induction cs generalizing afterDigit with
  | nil => rfl
  | cons c cs ih =>
      obtain ⟨hc, hrest⟩ := List.forall_mem_cons.mp h
      rw [joinDigits?, ih hrest]
      · rfl
      · rintro rfl
        exact not_isPlain_of_toNat (by decide) hc

theorem isNarrowBlank_of_isPlain {c : Char} (h : IsPlain c) : isNarrowBlank c = false := by
  have hspace : c ≠ ' ' := by
    rintro rfl
    exact not_isPlain_of_toNat (by decide) h
  have hcontrol : ¬ (0x09 ≤ c.toNat ∧ c.toNat ≤ 0x0D) := by
    intro hc
    exact not_isPlain_of_toNat (Or.inl (by omega)) h
  simp only [isNarrowBlank, Bool.or_eq_false_iff, Bool.and_eq_false_iff,
    decide_eq_false_iff_not]
  exact ⟨hspace, by omega⟩

theorem dropWhile_isNarrowBlank {cs : List Char} (h : ∀ c ∈ cs, IsPlain c) :
    cs.dropWhile isNarrowBlank = cs := by
  cases cs with
  | nil => rfl
  | cons c cs =>
      rw [List.dropWhile_cons_of_neg]
      rw [isNarrowBlank_of_isPlain (h c List.mem_cons_self)]
      exact Bool.false_ne_true

theorem trimBlanks_of_isPlain {cs : List Char} (h : ∀ c ∈ cs, IsPlain c) :
    trimBlanks cs = cs := by
  have hreverse : ∀ c ∈ cs.reverse, IsPlain c := by
    intro c hc
    exact h c (List.mem_reverse.mp hc)
  rw [trimBlanks, dropWhile_isNarrowBlank h, dropWhile_isNarrowBlank hreverse,
    List.reverse_reverse]

theorem splitSign_of_isPlain {c : Char} (h : IsPlain c) (cs : List Char) :
    splitSign (c :: cs) = (false, c :: cs) := by
  rw [splitSign]
  · rintro rest hcons
    obtain ⟨rfl, -⟩ := List.cons.inj hcons
    exact not_isPlain_of_toNat (by decide) h
  · rintro rest hcons
    obtain ⟨rfl, -⟩ := List.cons.inj hcons
    exact not_isPlain_of_toNat (by decide) h

theorem toLower_of_isPlain {c : Char} (h : IsPlain c) : c.toLower = c := by
  have hsmall : ¬ (c.val ≥ 'A'.val ∧ c.val ≤ 'Z'.val) := by
    rintro ⟨hle, -⟩
    have hcode : 65 ≤ c.toNat := UInt32.le_iff_toNat_le.mp hle
    exact not_isPlain_of_toNat (Or.inr (by omega)) h
  exact dif_neg hsmall

theorem unsigned?_of_isPlain {c : Char} (h : IsPlain c) (negative : Bool)
    (cs : List Char) : unsigned? negative (c :: cs) = decimal? negative (c :: cs) := by
  have hword : ∀ d ds, ¬ IsPlain d → (c :: cs).map Char.toLower ≠ d :: ds := by
    intro d ds hd heq
    rw [List.map_cons, toLower_of_isPlain h] at heq
    obtain ⟨rfl, -⟩ := List.cons.inj heq
    exact hd h
  have hi : ¬ IsPlain 'i' := not_isPlain_of_toNat (by decide)
  have hn : ¬ IsPlain 'n' := not_isPlain_of_toNat (by decide)
  simp only [unsigned?, hword _ _ hi, hword _ _ hn, or_self, if_false]

/-! ## The number of a numeral -/

/-- Digits and a fraction that may follow them are a decimal numeral. -/
theorem exists_decimal? {cs : List Char} (h : IsNumeral cs) (negative : Bool) :
    ∃ x, decimal? negative cs = some x := by
  rcases h with h | ⟨whole, fraction, rfl, hwhole, hfraction⟩
  · obtain ⟨d, ds, rfl, -, hall⟩ := exists_of_areDigits h
    simp only [decimal?, List.takeWhile_eq_self_iff.mpr hall,
      List.dropWhile_eq_nil_iff.mpr hall, splitFraction, exponent?]
    exact ⟨_, rfl⟩
  · obtain ⟨d, ds, rfl, -, hall⟩ := exists_of_areDigits hwhole
    obtain ⟨-, -, -, -, hrest⟩ := exists_of_areDigits hfraction
    have hpoint : ∀ c ∈ ('.' :: fraction).head?, isDigit c = false := by
      intro c hc
      obtain rfl : '.' = c := by simpa using hc
      rfl
    simp only [decimal?, takeWhile_append_of_all hall hpoint,
      dropWhile_append_of_all hall hpoint, splitFraction,
      List.dropWhile_eq_nil_iff.mpr hrest, exponent?]
    exact ⟨_, rfl⟩

theorem exists_ofChars? {cs : List Char} (h : IsNumeral cs) :
    ∃ x, ofChars? cs = some x := by
  have hplain := isPlain_of_isNumeral h
  obtain ⟨d, ds, rfl, -⟩ := Lexeme.exists_of_isNumeral h
  have hd := hplain d List.mem_cons_self
  obtain ⟨x, hx⟩ := exists_decimal? h false
  refine ⟨x, ?_⟩
  rw [ofChars?, mapM_narrow?_of_isPlain hplain]
  simp only [Option.bind_eq_bind, Option.bind_some, joinDigits?_of_isPlain hplain,
    trimBlanks_of_isPlain hplain, splitSign_of_isPlain hd, unsigned?_of_isPlain hd, hx]

end Numeral

/-- A number literal of a script is read as a number. -/
theorem Binary64.exists_ofText? {raw : String} (h : IsNumeral raw.toList) :
    ∃ x, ofText? raw = some x :=
  Numeral.exists_ofChars? h

end Autopilot
