import Autopilot.Text.Lowercase
import Mathlib.Data.Nat.Bitwise

/-!
# The lower case of a lower case

The lower case of a text is its own lower case, outside ASCII too: no small letter is a
capital, and a capital sigma becomes a small one.
-/

namespace Autopilot.Text

/-! ## Small letters are no capitals -/

/-- The capitals of a run, by their code points. -/
def CapitalRun.codes (run : CapitalRun) : List Nat :=
  ((List.range (run.last + 1 - run.first)).map (run.first + ·)).filter run.contains

theorem CapitalRun.mem_codes_iff {run : CapitalRun} {n : Nat} :
    n ∈ run.codes ↔ run.contains n = true := by
  rw [codes, List.mem_filter, List.mem_map]
  constructor
  · exact And.right
  · intro h
    have hbounds := h
    simp only [contains, Bool.and_eq_true, decide_eq_true_eq] at hbounds
    refine ⟨⟨n - run.first, ?_, ?_⟩, h⟩
    · rw [List.mem_range]
      omega
    · omega

/-- All capitals, by their code points. -/
def capitals : List Nat :=
  List.range' 65 26 ++ 0x130 :: 0x3A3 :: capitalRuns.toList.flatMap CapitalRun.codes

/-- Code points of lower cases that are not found by runs: those of the dotted capital and
of the capital sigma, and zero, which stands for what is no code point. -/
def strayLetters : List Nat := [0, 0x69, 0x307, 0x3C2, 0x3C3]

/-- The code points that the lower cases of capitals outside ASCII are made of. -/
def smallLetters : List Nat :=
  strayLetters ++ capitalRuns.toList.flatMap fun run =>
    run.codes.map fun (n : Nat) => ((n : Int) + run.shift).toNat

/-- The number in which the bits with some places are set. -/
def bits (places : List Nat) : Nat :=
  places.foldr (fun place rest => 2 ^ place ||| rest) 0

theorem testBit_bits (places : List Nat) (n : Nat) :
    (bits places).testBit n = decide (n ∈ places) := by
  induction places with
  | nil => simp [bits]
  | cons place rest ih =>
      rw [bits] at ih ⊢
      rw [List.foldr_cons, Nat.testBit_or, ih, Nat.testBit_two_pow]
      simp [eq_comm]

theorem notMem_capitals_of_mem_smallLetters {n : Nat} (h : n ∈ smallLetters) :
    n ∉ capitals := by
  intro hcapital
  have hnone : bits capitals &&& bits smallLetters = 0 := by decide +kernel
  have hboth : (bits capitals &&& bits smallLetters).testBit n = true := by
    rw [Nat.testBit_and, testBit_bits, testBit_bits]
    simp [h, hcapital]
  rw [hnone, Nat.zero_testBit] at hboth
  cases hboth

theorem notMem_capitals_of_mem_strayLetters {n : Nat} (h : n ∈ strayLetters) :
    n ∉ capitals :=
  notMem_capitals_of_mem_smallLetters (List.mem_append_left _ h)

theorem mem_capitals_iff {n : Nat} : n ∈ capitals ↔
    (65 ≤ n ∧ n ≤ 90) ∨ n = 0x130 ∨ n = 0x3A3 ∨
      ∃ run ∈ capitalRuns, run.contains n = true := by
  have hnarrow : 65 ≤ n ∧ n < 65 + 26 ↔ 65 ≤ n ∧ n ≤ 90 := by omega
  simp only [capitals, List.mem_append, List.mem_range'_1, List.mem_cons, List.mem_flatMap,
    CapitalRun.mem_codes_iff, Array.mem_toList_iff, hnarrow]

/-- The capitals outside ASCII lie beyond it. -/
theorem le_of_contains {run : CapitalRun} (hrun : run ∈ capitalRuns) {n : Nat}
    (h : run.contains n = true) : 0x80 ≤ n := by
  have hfirst : ∀ run ∈ capitalRuns.toList, 0x80 ≤ run.first := by decide +kernel
  have hrun := hfirst run (Array.mem_toList_iff.mpr hrun)
  simp only [CapitalRun.contains, Bool.and_eq_true, decide_eq_true_eq] at h
  omega

theorem smallWide_of_find?_eq_none {c : Char}
    (h : capitalRuns.find? (·.contains c.toNat) = none) : smallWide c = c := by
  unfold smallWide
  rw [h]

theorem smallWide_of_find?_eq_some {c : Char} {run : CapitalRun}
    (h : capitalRuns.find? (·.contains c.toNat) = some run) :
    smallWide c = Char.ofNat ((c.toNat : Int) + run.shift).toNat := by
  unfold smallWide
  rw [h]

/-- A character that is no capital is its own lower case. -/
theorem small_of_notMem_capitals {c : Char} (h : c.toNat ∉ capitals) : small c = [c] := by
  rw [mem_capitals_iff, not_or, not_or] at h
  obtain ⟨hnarrow, hdotted, hwide⟩ := h
  rw [small]
  by_cases hascii : c.toNat < 0x80
  · have hsame : smallNarrow c = c := by
      apply Char.toNat_inj.mp
      rw [toNat_smallNarrow, if_neg hnarrow]
    rw [if_pos hascii, hsame]
  · have hnone : capitalRuns.find? (·.contains c.toNat) = none := by
      rw [Array.find?_eq_none]
      intro run hrun hcontains
      exact hwide (Or.inr ⟨run, hrun, hcontains⟩)
    rw [if_neg hascii, if_neg hdotted, smallWide_of_find?_eq_none hnone]

theorem notMem_capitals_smallWide {c : Char} (hascii : ¬ c.toNat < 0x80)
    (hdotted : c.toNat ≠ 0x130) (hsigma : c.toNat ≠ 0x3A3) :
    (smallWide c).toNat ∉ capitals := by
  cases hfind : capitalRuns.find? (·.contains c.toNat) with
  | none =>
      rw [smallWide_of_find?_eq_none hfind, mem_capitals_iff]
      rw [Array.find?_eq_none] at hfind
      rintro (hnarrow | hsame | hsame | ⟨run, hrun, hcontains⟩)
      · omega
      · exact hdotted hsame
      · exact hsigma hsame
      · exact hfind run hrun hcontains
  | some run =>
      have hrun := Array.mem_of_find?_eq_some hfind
      have hcontains := Array.find?_some hfind
      have hsmall : ((c.toNat : Int) + run.shift).toNat ∈ smallLetters := by
        apply List.mem_append_right
        rw [List.mem_flatMap]
        refine ⟨run, Array.mem_toList_iff.mpr hrun, List.mem_map_of_mem ?_⟩
        exact CapitalRun.mem_codes_iff.mpr hcontains
      rw [smallWide_of_find?_eq_some hfind, Char.ofNat]
      by_cases hvalid : ((c.toNat : Int) + run.shift).toNat.isValidChar
      · rw [dif_pos hvalid]
        exact notMem_capitals_of_mem_smallLetters hsmall
      · rw [dif_neg hvalid]
        exact notMem_capitals_of_mem_strayLetters (by decide)

/-- The lower case of a character has no capitals. -/
theorem notMem_capitals_of_mem_small {c d : Char} (hsigma : c.toNat ≠ 0x3A3)
    (h : d ∈ small c) : d.toNat ∉ capitals := by
  rw [small] at h
  split at h
  · rename_i hascii
    obtain rfl := List.mem_singleton.mp h
    have hsmall := smallNarrow_lt hascii
    have hnarrow := toNat_smallNarrow c
    rw [mem_capitals_iff]
    rintro (hcapital | hsame | hsame | ⟨run, hrun, hcontains⟩)
    · split at hnarrow <;> omega
    · omega
    · omega
    · have hwide := le_of_contains hrun hcontains
      omega
  rename_i hascii
  split at h
  · simp only [List.mem_cons, List.not_mem_nil, or_false] at h
    rcases h with rfl | rfl
    · exact notMem_capitals_of_mem_strayLetters (by decide)
    · exact notMem_capitals_of_mem_strayLetters (by decide)
  · rename_i hdotted
    rw [List.mem_singleton.mp h]
    exact notMem_capitals_smallWide hascii hdotted hsigma

/-! ## Texts -/

theorem notMem_capitals_of_mem_lowercaseAfter {before cs : List Char} {d : Char}
    (h : d ∈ lowercaseAfter before cs) : d.toNat ∉ capitals := by
  induction cs generalizing before with
  | nil => cases h
  | cons c rest ih =>
      rw [lowercaseAfter, List.mem_append] at h
      rcases h with h | h
      · split at h
        · obtain rfl := List.mem_singleton.mp h
          rw [smallSigma]
          split
          · exact notMem_capitals_of_mem_strayLetters (by decide)
          · exact notMem_capitals_of_mem_strayLetters (by decide)
        · rename_i hsigma
          exact notMem_capitals_of_mem_small hsigma h
      · exact ih h

theorem lowercaseAfter_of_notMem_capitals {before cs : List Char}
    (h : ∀ c ∈ cs, c.toNat ∉ capitals) : lowercaseAfter before cs = cs := by
  induction cs generalizing before with
  | nil => rfl
  | cons c rest ih =>
      obtain ⟨hfirst, hrest⟩ := List.forall_mem_cons.mp h
      have hsigma : c.toNat ≠ 0x3A3 := by
        intro hsame
        exact hfirst (mem_capitals_iff.mpr (Or.inr (Or.inr (Or.inl hsame))))
      rw [lowercaseAfter, if_neg hsigma, small_of_notMem_capitals hfirst, ih hrest]
      rfl

/-- The lower case of a text is its own lower case. -/
theorem lowercase_lowercase (text : String) :
    lowercase (lowercase text) = lowercase text := by
  rw [lowercase, lowercaseAfter_of_notMem_capitals]
  · exact String.ofList_toList
  · intro d hd
    rw [lowercase, String.toList_ofList] at hd
    exact notMem_capitals_of_mem_lowercaseAfter hd

end Autopilot.Text
