import Autopilot.Command.Registry
import Autopilot.Lexer.Basic

/-!
# Lexemes that are cut off as they are written

A lexeme leads a text if it is what is cut off in front of that text.  Words and
numbers lead what starts with neither a letter, a digit, an underscore nor a point;
lexemes that lead what follows them are the lexemes of the text that they make up.
-/

namespace Autopilot

open Text

/-- One or more digits. -/
def areDigits (cs : List Char) : Bool :=
  !cs.isEmpty && cs.all isDigit

/-- Digits, or digits on both sides of a point. -/
def IsNumeral (cs : List Char) : Prop :=
  areDigits cs = true ∨ ∃ whole fraction, cs = whole ++ '.' :: fraction ∧
    areDigits whole = true ∧ areDigits fraction = true

/-- Whether a text goes on neither with a word nor with a number. -/
def StartsApart (rest : List Char) : Prop :=
  ∀ c ∈ rest.head?, isWordPart c = false ∧ c ≠ '.'

theorem startsApart_cons {c : Char} (rest : List Char)
    (h : isWordPart c = false ∧ c ≠ '.') : StartsApart (c :: rest) := by
  intro d hd
  obtain rfl : c = d := by simpa using hd
  exact h

theorem isDigit_of_not_isWordPart {c : Char} (h : isWordPart c = false) :
    isDigit c = false :=
  (Bool.or_eq_false_iff.mp h).2

theorem StartsApart.isDigit {rest : List Char} (h : StartsApart rest) :
    ∀ c ∈ rest.head?, isDigit c = false := by
  intro c hc
  exact isDigit_of_not_isWordPart (h c hc).1

section Prefix

variable {p : Char → Bool} {cs rest : List Char}

theorem takeWhile_append_of_all (hcs : ∀ c ∈ cs, p c = true)
    (hrest : ∀ c ∈ rest.head?, p c = false) : (cs ++ rest).takeWhile p = cs := by
  rw [List.takeWhile_append_of_pos hcs]
  cases rest with
  | nil => simp
  | cons c rest => simp [hrest c rfl]

theorem dropWhile_append_of_all (hcs : ∀ c ∈ cs, p c = true)
    (hrest : ∀ c ∈ rest.head?, p c = false) : (cs ++ rest).dropWhile p = rest := by
  rw [List.dropWhile_append_of_pos hcs]
  cases rest with
  | nil => rfl
  | cons c rest => simp [hrest c rfl]

end Prefix

theorem exists_of_areDigits {cs : List Char} (h : areDigits cs = true) :
    ∃ d ds, cs = d :: ds ∧ isDigit d = true ∧ ∀ c ∈ cs, isDigit c = true := by
  cases cs with
  | nil => cases h
  | cons d ds =>
      have hall := List.all_eq_true.mp (Bool.and_eq_true_iff.mp h).2
      exact ⟨d, ds, rfl, hall d List.mem_cons_self, hall⟩

theorem splitNumber_digits {digits rest : List Char} (h : areDigits digits = true)
    (hrest : StartsApart rest) : splitNumber (digits ++ rest) = (digits, rest) := by
  obtain ⟨-, -, -, -, hall⟩ := exists_of_areDigits h
  rw [splitNumber, takeWhile_append_of_all hall hrest.isDigit,
    dropWhile_append_of_all hall hrest.isDigit]
  split
  · exact absurd rfl (hrest '.' rfl).2
  · rfl

/-- Digits and a point in front of a digit are followed by all digits from there on. -/
theorem splitNumber_point {whole : List Char} {d : Char} (rest : List Char)
    (hwhole : areDigits whole = true) (hd : isDigit d = true) :
    splitNumber (whole ++ '.' :: d :: rest) =
      (whole ++ '.' :: d :: rest.takeWhile isDigit, rest.dropWhile isDigit) := by
  obtain ⟨-, -, -, -, hall⟩ := exists_of_areDigits hwhole
  have hpoint : ∀ c ∈ ('.' :: d :: rest).head?, isDigit c = false := by
    intro c hc
    obtain rfl : '.' = c := by simpa using hc
    rfl
  rw [splitNumber, takeWhile_append_of_all hall hpoint,
    dropWhile_append_of_all hall hpoint]
  simp only [hd, if_true]

theorem splitNumber_fraction {whole fraction rest : List Char}
    (hwhole : areDigits whole = true) (hfraction : areDigits fraction = true)
    (hrest : StartsApart rest) :
    splitNumber (whole ++ '.' :: fraction ++ rest) =
      (whole ++ '.' :: fraction, rest) := by
  obtain ⟨d, ds, rfl, hd, hmore⟩ := exists_of_areDigits hfraction
  have hds : ∀ c ∈ ds, isDigit c = true := by
    intro c hc
    exact hmore c (List.mem_cons_of_mem d hc)
  rw [List.append_assoc, List.cons_append, List.cons_append,
    splitNumber_point _ hwhole hd, takeWhile_append_of_all hds hrest.isDigit,
    dropWhile_append_of_all hds hrest.isDigit]

theorem not_isWordStart_of_isDigit {c : Char} (h : isDigit c = true) :
    isWordStart c = false := by
  have hle : c ≤ '9' := of_decide_eq_true (Bool.and_eq_true_iff.mp h).2
  have hlower : ¬ 'a' ≤ c := by
    intro ha
    exact absurd (Char.le_trans ha hle) (by decide)
  have hupper : ¬ 'A' ≤ c := by
    intro ha
    exact absurd (Char.le_trans ha hle) (by decide)
  have hline : c ≠ '_' := by
    rintro rfl
    exact absurd hle (by decide)
  simp [isWordStart, hline, hlower, hupper]

theorem exists_of_isWord {word : String} (h : isWord word = true) :
    ∃ c cs, word.toList = c :: cs ∧ isWordStart c = true ∧
      ∀ d ∈ cs, isWordPart d = true := by
  rw [isWord] at h
  cases hword : word.toList with
  | nil =>
      rw [hword] at h
      cases h
  | cons c cs =>
      rw [hword] at h
      obtain ⟨hstart, hcs⟩ := Bool.and_eq_true_iff.mp h
      exact ⟨c, cs, rfl, hstart, List.all_eq_true.mp hcs⟩

theorem isWordPart_of_isWordStart {c : Char} (h : isWordStart c = true) :
    isWordPart c = true := by
  rw [isWordPart, h, Bool.true_or]

theorem isWordPart_of_isDigit {c : Char} (h : isDigit c = true) :
    isWordPart c = true := by
  rw [isWordPart, h, Bool.or_true]

theorem toNat_lt_of_isWordPart {c : Char} (h : isWordPart c = true) : c.toNat < 0x80 := by
  simp only [isWordPart, isWordStart, isDigit, Bool.or_eq_true, Bool.and_eq_true,
    decide_eq_true_eq, Char.le_def, UInt32.le_iff_toNat_le] at h
  rcases h with ((rfl | ⟨-, h⟩) | ⟨-, h⟩) | ⟨-, h⟩
  · decide
  · exact Nat.lt_of_le_of_lt h (by decide)
  · exact Nat.lt_of_le_of_lt h (by decide)
  · exact Nat.lt_of_le_of_lt h (by decide)

/-- A word is made of characters of ASCII. -/
theorem toNat_lt_of_isWord {word : String} (h : isWord word = true) :
    ∀ c ∈ word.toList, c.toNat < 0x80 := by
  obtain ⟨first, rest, hword, hfirst, hrest⟩ := exists_of_isWord h
  rw [hword, List.forall_mem_cons]
  constructor
  · exact toNat_lt_of_isWordPart (isWordPart_of_isWordStart hfirst)
  · intro c hc
    exact toNat_lt_of_isWordPart (hrest c hc)

namespace Lexeme

/-- Whether a lexeme is what is cut off in front of a text. -/
def Leads (lexeme : Lexeme) (rest : List Char) : Prop :=
  ∃ c cs, lexeme.chars = c :: cs ∧ first c (cs ++ rest) = (lexeme, rest)

/-- Whether every one of some lexemes leads what follows it. -/
def AllLead (rest : List Char) : List Lexeme → Prop
  | [] => True
  | lexeme :: others =>
    lexeme.Leads (others.flatMap chars ++ rest) ∧ AllLead rest others

theorem allLead_append {rest : List Char} {front back : List Lexeme} :
    AllLead rest (front ++ back) ↔
      AllLead (back.flatMap chars ++ rest) front ∧ AllLead rest back := by
  induction front with
  | nil => simp [AllLead]
  | cons lexeme front ih =>
      simp only [List.cons_append, AllLead, ih, List.flatMap_append, List.append_assoc,
        and_assoc]

theorem leads_blank (rest : List Char) : (blank ' ').Leads rest :=
  ⟨' ', [], rfl, rfl⟩

theorem leads_newline (rest : List Char) : (token .newline ['\n']).Leads rest :=
  ⟨'\n', [], rfl, rfl⟩

/-- A character that is a token by itself and starts no longer one. -/
theorem leads_single {c : Char} {kind : TokenKind} (rest : List Char)
    (hfirst : ∀ cs, first c cs = mark c cs) (hsingle : single c = token kind [c])
    (hpair : ∀ d ∈ rest.head?, pairKind? c d = none) : (token kind [c]).Leads rest := by
  refine ⟨c, [], rfl, ?_⟩
  rw [List.nil_append, hfirst]
  cases rest with
  | nil => rw [mark, hsingle]
  | cons d rest =>
      rw [mark, hpair d rfl, hsingle]

theorem leads_leftParen (rest : List Char) : (token .leftParen ['(']).Leads rest := by
  apply leads_single rest (fun _ => rfl) rfl
  intro d _
  simp [pairKind?]

theorem leads_rightParen (rest : List Char) : (token .rightParen [')']).Leads rest := by
  apply leads_single rest (fun _ => rfl) rfl
  intro d _
  simp [pairKind?]

theorem leads_comma (rest : List Char) : (token .comma [',']).Leads rest := by
  apply leads_single rest (fun _ => rfl) rfl
  intro d _
  simp [pairKind?]

/-- What may stand in a word is no blank and starts no comment. -/
theorem plain_of_isWordPart {c : Char} (h : isWordPart c = true) :
    ¬ isBlank c = true ∧ c ≠ '#' ∧ c ≠ '\n' := by
  refine ⟨?_, ?_, ?_⟩
  · intro hblank
    simp only [isBlank, Bool.or_eq_true, decide_eq_true_eq] at hblank
    rcases hblank with (rfl | rfl) | rfl <;> cases h
  · rintro rfl
    cases h
  · rintro rfl
    cases h

/-- A word is cut off where a letter or an underscore stands. -/
theorem first_of_isWordStart {c : Char} (cs : List Char) (h : isWordStart c = true) :
    first c cs =
      (token (wordKind (c :: cs.takeWhile isWordPart)) (c :: cs.takeWhile isWordPart),
        cs.dropWhile isWordPart) := by
  obtain ⟨hblank, hhash, hline⟩ := plain_of_isWordPart (isWordPart_of_isWordStart h)
  rw [first, if_neg hblank, if_neg hhash, if_neg hline, if_pos h]

/-- A number is cut off where a digit stands. -/
theorem first_of_isDigit {c : Char} (cs : List Char) (h : isDigit c = true) :
    first c cs = (token .number (splitNumber (c :: cs)).1, (splitNumber (c :: cs)).2) := by
  obtain ⟨hblank, hhash, hline⟩ := plain_of_isWordPart (isWordPart_of_isDigit h)
  have hstart : ¬ isWordStart c = true := by simp [not_isWordStart_of_isDigit h]
  rw [first, if_neg hblank, if_neg hhash, if_neg hline, if_neg hstart, if_pos h]

theorem leads_word {word : String} {rest : List Char} (h : isWord word = true)
    (hrest : StartsApart rest) :
    (token (wordKind word.toList) word.toList).Leads rest := by
  obtain ⟨c, cs, hword, hstart, hpart⟩ := exists_of_isWord h
  have hapart : ∀ c ∈ rest.head?, isWordPart c = false := by
    intro c hc
    exact (hrest c hc).1
  refine ⟨c, cs, hword, ?_⟩
  rw [first_of_isWordStart _ hstart, takeWhile_append_of_all hpart hapart,
    dropWhile_append_of_all hpart hapart, hword]

/-- A number is split off what it leads. -/
theorem splitNumber_of_isNumeral {digits rest : List Char} (h : IsNumeral digits)
    (hrest : StartsApart rest) : splitNumber (digits ++ rest) = (digits, rest) := by
  rcases h with h | ⟨whole, fraction, rfl, hwhole, hfraction⟩
  · exact splitNumber_digits h hrest
  · exact splitNumber_fraction hwhole hfraction hrest

theorem exists_of_isNumeral {digits : List Char} (h : IsNumeral digits) :
    ∃ d ds, digits = d :: ds ∧ isDigit d = true := by
  rcases h with h | ⟨whole, fraction, rfl, hwhole, -⟩
  · obtain ⟨d, ds, hcons, hd, -⟩ := exists_of_areDigits h
    exact ⟨d, ds, hcons, hd⟩
  · obtain ⟨d, ds, rfl, hd, -⟩ := exists_of_areDigits hwhole
    exact ⟨d, _, rfl, hd⟩

theorem leads_number {digits : List Char} {rest : List Char} (h : IsNumeral digits)
    (hrest : StartsApart rest) : (token .number digits).Leads rest := by
  have hsplit := splitNumber_of_isNumeral h hrest
  obtain ⟨d, ds, rfl, hd⟩ := exists_of_isNumeral h
  refine ⟨d, ds, rfl, ?_⟩
  rw [first_of_isDigit _ hd, ← List.cons_append, hsplit]

end Lexeme

/-- Lexemes that lead what follows them are the lexemes of their text. -/
theorem lexemes_of_allLead {ls : List Lexeme} (h : Lexeme.AllLead [] ls) :
    lexemes (ls.flatMap Lexeme.chars) = ls := by
  induction ls with
  | nil => rw [List.flatMap_nil, lexemes]
  | cons lexeme ls ih =>
      obtain ⟨⟨c, cs, hchars, hfirst⟩, hrest⟩ := h
      rw [List.append_nil] at hfirst
      rw [List.flatMap_cons, hchars, List.cons_append, lexemes, hfirst, ih hrest]

end Autopilot
