import Autopilot.Text.Casing
import Autopilot.Text.SmallLetter

/-!
# Lower case of a text

Names are compared in lower case.  All characters but one are lowered by
themselves; a capital sigma becomes a final small sigma exactly when it closes a
word: a cased letter stands before it and none after it, ignorable characters
between them being passed over.

For text in ASCII the lower case has the same length and is a fixed point.
-/

namespace Autopilot.Text

/-- The first character of a list that is not passed over. -/
def firstCounted? (cs : List Char) : Option Char :=
  cs.find? fun c => !isCaseIgnorable c

/-- Whether a cased letter comes first in a list, ignorable characters aside. -/
def startsCased (cs : List Char) : Bool :=
  (firstCounted? cs).any isCased

/-- The small form of a capital sigma between the characters `before` it, nearest
first, and `after` it. -/
def smallSigma (before after : List Char) : Char :=
  if startsCased before && !startsCased after then Char.ofNat 0x3C2
  else Char.ofNat 0x3C3

/-- The lower case of the characters that follow `before`, nearest first. -/
def lowercaseAfter (before : List Char) : List Char → List Char
  | [] => []
  | c :: rest =>
    (if c.toNat = 0x3A3 then [smallSigma before rest] else small c) ++
      lowercaseAfter (c :: before) rest

/-- The lower case of a text. -/
def lowercase (text : String) : String :=
  String.ofList (lowercaseAfter [] text.toList)

/-- In ASCII the neighbours of a character do not matter. -/
theorem lowercaseAfter_of_ascii {cs : List Char} (before : List Char)
    (h : ∀ c ∈ cs, c.toNat < 0x80) :
    lowercaseAfter before cs = cs.map smallNarrow := by
  induction cs generalizing before with
  | nil => rfl
  | cons c rest ih =>
    have hc : c.toNat < 0x80 := h c (by simp)
    have hsigma : c.toNat ≠ 0x3A3 := by omega
    simp [lowercaseAfter, hsigma, small_of_lt hc,
      ih (c :: before) fun d hd => h d (by simp [hd])]

/-- The small letter of a capital of ASCII lies thirty-two code points after it. -/
theorem toNat_smallNarrow (c : Char) :
    (smallNarrow c).toNat =
      if 65 ≤ c.toNat ∧ c.toNat ≤ 90 then c.toNat + 32 else c.toNat := by
  have hcapital : ('A' ≤ c ∧ c ≤ 'Z') ↔ (65 ≤ c.toNat ∧ c.toNat ≤ 90) := Iff.rfl
  unfold smallNarrow
  by_cases h : 65 ≤ c.toNat ∧ c.toNat ≤ 90
  · have hvalid : (c.toNat + 32).isValidChar := Or.inl (by omega)
    rw [if_pos (hcapital.mpr h), if_pos h, Char.ofNat, dif_pos hvalid]
    rfl
  · rw [if_neg fun hc => h (hcapital.mp hc), if_neg h]

/-- Small letters of ASCII stay in ASCII. -/
theorem smallNarrow_lt {c : Char} (h : c.toNat < 0x80) :
    (smallNarrow c).toNat < 0x80 := by
  rw [toNat_smallNarrow]
  split <;> omega

/-- A small letter of ASCII is its own small letter. -/
theorem smallNarrow_smallNarrow (c : Char) :
    smallNarrow (smallNarrow c) = smallNarrow c := by
  apply Char.toNat_inj.mp
  rw [toNat_smallNarrow (smallNarrow c)]
  have := toNat_smallNarrow c
  split at this <;> split <;> omega

theorem lowercase_of_ascii {text : String} (h : ∀ c ∈ text.toList, c.toNat < 0x80) :
    lowercase text = String.ofList (text.toList.map smallNarrow) := by
  rw [lowercase, lowercaseAfter_of_ascii [] h]

/-- In ASCII the lower case of a text is its own lower case. -/
theorem lowercase_lowercase_of_ascii {text : String}
    (h : ∀ c ∈ text.toList, c.toNat < 0x80) :
    lowercase (lowercase text) = lowercase text := by
  have hsmall : ∀ c ∈ (lowercase text).toList, c.toNat < 0x80 := by
    intro c hc
    rw [lowercase_of_ascii h, String.toList_ofList] at hc
    obtain ⟨d, hd, rfl⟩ := List.mem_map.mp hc
    exact smallNarrow_lt (h d hd)
  rw [lowercase_of_ascii hsmall, lowercase_of_ascii h, String.toList_ofList, List.map_map]
  congr 2
  funext c
  exact smallNarrow_smallNarrow c

end Autopilot.Text
