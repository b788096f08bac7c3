import Autopilot.Proofs.Lexer.Pieces
import Autopilot.Proofs.Lexer.Spelled
import Mathlib.Data.Set.Basic

/-!
# The longest token

A lexical grammar says which texts are a token, and of which kind.  It settles what is
cut off wherever a token or a stray character is: the longest token that the remaining
text starts with, or a stray character if the remaining text starts with no token.
-/

namespace Autopilot

open Text

/-! ## The lexical grammar -/

namespace TokenKind

/-- The keyword of a kind, in small letters. -/
def keyword? : TokenKind → Option String
  | ifWord => some "if"
  | thenWord => some "then"
  | elseWord => some "else"
  | andWord => some "and"
  | orWord => some "or"
  | _ => none

/-- The operator or the punctuation mark of a kind. -/
def mark? : TokenKind → Option String
  | lessThan => some "<"
  | lessOrEqual => some "<="
  | greaterThan => some ">"
  | greaterOrEqual => some ">="
  | equalTo => some "=="
  | notEqualTo => some "!="
  | leftParen => some "("
  | rightParen => some ")"
  | comma => some ","
  | _ => none

/-- A text is a token of a kind.  A word is a keyword if it is one in the small letters
of ASCII, and an identifier otherwise. -/
inductive Admits : TokenKind → String → Prop
  | newline : newline.Admits "\n"
  | identifier {text : String} (hword : isWord text = true)
      (hother : ∀ kind : TokenKind, kind.keyword? ≠ some text.toLower) :
      identifier.Admits text
  | keyword {kind : TokenKind} {text : String} (hword : isWord text = true)
      (hkind : kind.keyword? = some text.toLower) : kind.Admits text
  | number {text : String} (h : IsNumeral text.toList) : number.Admits text
  | mark {kind : TokenKind} {text : String} (h : kind.mark? = some text) :
      kind.Admits text

end TokenKind

/-- The tokens that a text starts with: its non-empty prefixes that are a token. -/
def leadingTokens (rest : List Char) : Set String :=
  {text | text ≠ "" ∧ text.toList <+: rest ∧ ∃ kind : TokenKind, kind.Admits text}

/-- A piece is what is to be cut off in front of a text.  It is the longest token that
the text starts with, of no kind but the one that the grammar gives to it.  If the text
starts with no token, it is the first character of the text, and the remark on it says
whether it is one of the two characters that only start an operator. -/
structure Piece.IsMunchOf (rest : List Char) (piece : Piece) : Prop where
  token_of_nonempty : (leadingTokens rest).Nonempty → ∃ found : Token,
    piece = token found ∧ found.text ∈ leadingTokens rest ∧
      (∀ other ∈ leadingTokens rest, other.length ≤ found.text.length) ∧
      ∀ kind : TokenKind, kind.Admits found.text ↔ found.kind = kind
  stray_of_empty : leadingTokens rest = ∅ → ∃ c others diagnostic,
    rest = c :: others ∧ piece = stray c diagnostic ∧
      diagnostic.code = if c = '=' ∨ c = '!' then "LEXER_INCOMPLETE_OPERATOR"
        else "LEXER_UNEXPECTED_CHARACTER"

/-! ## Tokens of the grammar are spelled as their kinds demand -/

theorem smallNarrow_eq_toLower (c : Char) : smallNarrow c = c.toLower := by
  apply Char.toNat_inj.mp
  have hcapital : (65 ≤ c.toNat ∧ c.toNat ≤ 90) ↔
      (c.val ≥ 'A'.val ∧ c.val ≤ 'Z'.val) := Iff.rfl
  rw [toNat_smallNarrow]
  by_cases h : 65 ≤ c.toNat ∧ c.toNat ≤ 90
  · have hlower : c.toLower.toNat = (c.val + ('a'.val - 'A'.val)).toNat :=
      congrArg Char.toNat (dif_pos (hcapital.mp h))
    have hsum : (c.val + ('a'.val - 'A'.val)).toNat = (c.toNat + 32) % 2 ^ 32 :=
      UInt32.toNat_add _ _
    rw [if_pos h, hlower, hsum]
    omega
  · have hsame : c.toLower = c := dif_neg (mt hcapital.mpr h)
    rw [if_neg h, hsame]

theorem lowercase_of_isWord {word : String} (h : isWord word = true) :
    lowercase word = word.toLower := by
  have hlower : word.toLower.toList = word.toList.map Char.toLower := String.toList_map
  rw [lowercase_of_ascii (toNat_lt_of_isWord h), ← String.toList_inj, String.toList_ofList,
    hlower]
  exact List.map_congr_left fun c _ => smallNarrow_eq_toLower c

theorem lookup_keywords_eq_some_iff {key : String} {kind : TokenKind} :
    keywords.lookup key = some kind ↔ kind.keyword? = some key := by
  constructor
  · intro h
    obtain ⟨front, back, hsplit, -⟩ := List.lookup_eq_some_iff.mp h
    have hmem : (key, kind) ∈ keywords := by
      rw [hsplit]
      simp
    simp only [keywords, List.mem_cons, Prod.mk.injEq, List.not_mem_nil, or_false] at hmem
    rcases hmem with ⟨rfl, rfl⟩ | ⟨rfl, rfl⟩ | ⟨rfl, rfl⟩ | ⟨rfl, rfl⟩ | ⟨rfl, rfl⟩ <;> rfl
  · intro h
    cases kind with
    | ifWord | thenWord | elseWord | andWord | orWord =>
        cases h
        rfl
    | _ => cases h

theorem keywordKind?_of_isWord {word : String} (h : isWord word = true)
    {kind : TokenKind} :
    keywordKind? word = some kind ↔ kind.keyword? = some word.toLower := by
  rw [keywordKind?, lowercase_of_isWord h, lookup_keywords_eq_some_iff]

theorem admits_iff_spells {kind : TokenKind} (hkind : kind ≠ .eof) {text : String} :
    kind.Admits text ↔ kind.Spells text := by
  constructor
  · rintro (_ | ⟨hword, hother⟩ | ⟨hword, hkeyword⟩ | hdigits | hmark)
    · rfl
    · refine ⟨hword, Option.eq_none_iff_forall_ne_some.mpr ?_⟩
      intro kind hkeyword
      exact hother kind ((keywordKind?_of_isWord hword).mp hkeyword)
    · have hkeywordKind := (keywordKind?_of_isWord hword).mpr hkeyword
      cases kind with
      | ifWord | thenWord | elseWord | andWord | orWord => exact ⟨hword, hkeywordKind⟩
      | _ => cases hkeyword
    · exact hdigits
    · cases kind <;> cases hmark <;> rfl
  · intro h
    cases kind with
    | eof => exact absurd rfl hkind
    | newline =>
        cases h
        exact .newline
    | identifier =>
        refine .identifier h.1 ?_
        intro kind hkeyword
        have hkeywordKind := (keywordKind?_of_isWord h.1).mpr hkeyword
        rw [h.2] at hkeywordKind
        cases hkeywordKind
    | number => exact .number h
    | ifWord | thenWord | elseWord | andWord | orWord =>
        exact .keyword h.1 ((keywordKind?_of_isWord h.1).mp h.2)
    | _ => exact .mark (congrArg some h.symm)

theorem TokenKind.Admits.ne_eof {kind : TokenKind} {text : String}
    (h : kind.Admits text) : kind ≠ .eof := by
  rintro rfl
  cases h with
  | keyword hword hkind => cases hkind
  | mark hmark => cases hmark

/-- No text is a token of two kinds. -/
theorem TokenKind.Admits.unique {kind other : TokenKind} {text : String}
    (h : kind.Admits text) (hother : other.Admits text) : kind = other := by
  have hleads := ((admits_iff_spells h.ne_eof).mp h).leads h.ne_eof startsBlank_nil
  have hothers :=
    ((admits_iff_spells hother.ne_eof).mp hother).leads hother.ne_eof startsBlank_nil
  obtain ⟨c, cs, hchars, hfirst⟩ := hleads
  obtain ⟨d, ds, hchars', hfirst'⟩ := hothers
  obtain ⟨rfl, rfl⟩ := List.cons.inj (hchars.symm.trans hchars')
  have hsame := congrArg Prod.fst (hfirst.symm.trans hfirst')
  exact (Lexeme.token.inj hsame).1

/-! ## Nothing longer is a token -/

theorem prefix_takeWhile {p : Char → Bool} {front cs : List Char} (h : front <+: cs)
    (hall : ∀ c ∈ front, p c = true) : front <+: cs.takeWhile p := by
  obtain ⟨back, rfl⟩ := h
  rw [List.takeWhile_append_of_pos hall]
  exact List.prefix_append _ _

theorem takeWhile_prefix_splitNumber (cs : List Char) :
    cs.takeWhile isDigit <+: (splitNumber cs).1 := by
  rw [splitNumber]
  split
  · split
    · exact List.prefix_append _ _
    · exact List.prefix_rfl
  · exact List.prefix_rfl

/-- A number in front of a text is part of the number that is split off. -/
theorem prefix_splitNumber {digits cs : List Char} (hdigits : IsNumeral digits)
    (h : digits <+: cs) : digits <+: (splitNumber cs).1 := by
  rcases hdigits with hall | ⟨whole, fraction, rfl, hwhole, hfraction⟩
  · obtain ⟨-, -, -, -, hall⟩ := exists_of_areDigits hall
    exact (prefix_takeWhile h hall).trans (takeWhile_prefix_splitNumber cs)
  · obtain ⟨back, rfl⟩ := h
    obtain ⟨d, ds, rfl, hd, hmore⟩ := exists_of_areDigits hfraction
    have hds : ∀ c ∈ ds, isDigit c = true := by
      intro c hc
      exact hmore c (List.mem_cons_of_mem d hc)
    rw [List.append_assoc, List.cons_append, List.cons_append,
      splitNumber_point _ hwhole hd, List.prefix_append_right_inj,
      List.prefix_cons_inj, List.prefix_cons_inj]
    exact prefix_takeWhile (List.prefix_append ds back) hds

theorem TokenKind.exists_of_mark? {kind : TokenKind} {text : String}
    (h : kind.mark? = some text) :
    (∃ c, text.toList = [c] ∧ singleKind? c = some kind) ∨
      ∃ c d, text.toList = [c, d] ∧ pairKind? c d = some kind := by
  cases kind with
  | lessThan | greaterThan | leftParen | rightParen | comma =>
      cases h
      exact Or.inl ⟨_, rfl, rfl⟩
  | lessOrEqual | greaterOrEqual | equalTo | notEqualTo =>
      cases h
      exact Or.inr ⟨_, _, rfl, rfl⟩
  | _ => cases h

namespace Lexeme

theorem first_of_singleKind? {c : Char} {kind : TokenKind} (h : singleKind? c = some kind)
    (cs : List Char) : first c cs = mark c cs := by
  simp only [singleKind?] at h
  split_ifs at h with hc hc hc hc hc <;> cases hc <;> rfl

theorem first_of_pairKind? {c d : Char} {kind : TokenKind}
    (h : pairKind? c d = some kind) (cs : List Char) : first c cs = mark c cs := by
  simp only [pairKind?, Option.ite_none_right_eq_some] at h
  obtain ⟨-, h⟩ := h
  split_ifs at h with hc hc hc hc <;> cases hc <;> rfl

/-- Where an operator or a punctuation mark stands, one is cut off. -/
theorem exists_mark_of_singleKind? {c : Char} {kind : TokenKind}
    (h : singleKind? c = some kind) (cs : List Char) :
    ∃ other text, (mark c cs).1 = token other (c :: text) := by
  have hsingle : single c = token kind [c] := by rw [single, h]
  cases cs with
  | nil => exact ⟨kind, [], hsingle⟩
  | cons d rest =>
      rw [mark]
      split
      · exact ⟨_, _, rfl⟩
      · exact ⟨kind, [], hsingle⟩

/-- Where a token of the grammar stands, no shorter token is cut off. -/
theorem exists_token_of_admits {kind : TokenKind} {text : String} (h : kind.Admits text)
    {c : Char} {cs : List Char} (hfront : text.toList <+: c :: cs) :
    ∃ other found, (first c cs).1 = token other found ∧
      text.toList.length ≤ found.length := by
  have hword : isWord text = true → ∃ other found, (first c cs).1 = token other found ∧
      text.toList.length ≤ found.length := by
    intro hword
    obtain ⟨first, rest, hchars, hfirst, hrest⟩ := exists_of_isWord hword
    rw [hchars, List.cons_prefix_cons] at hfront
    obtain ⟨rfl, hfront⟩ := hfront
    refine ⟨_, _, congrArg Prod.fst (first_of_isWordStart cs hfirst), ?_⟩
    rw [hchars, List.length_cons, List.length_cons]
    exact Nat.succ_le_succ (prefix_takeWhile hfront hrest).length_le
  cases h with
  | newline =>
      obtain ⟨rfl, -⟩ := List.cons_prefix_cons.mp hfront
      exact ⟨.newline, ['\n'], rfl, Nat.le_refl 1⟩
  | identifier hidentifier _ => exact hword hidentifier
  | keyword hkeyword _ => exact hword hkeyword
  | number hdigits =>
      have hlength := (prefix_splitNumber hdigits hfront).length_le
      obtain ⟨d, ds, hchars, hd⟩ := exists_of_isNumeral hdigits
      rw [hchars, List.cons_prefix_cons] at hfront
      obtain ⟨rfl, -⟩ := hfront
      exact ⟨_, _, congrArg Prod.fst (first_of_isDigit cs hd), hlength⟩
  | mark hmark =>
      rcases TokenKind.exists_of_mark? hmark with
        ⟨d, hchars, hkind⟩ | ⟨d, e, hchars, hkind⟩
      · rw [hchars, List.cons_prefix_cons] at hfront
        obtain ⟨rfl, -⟩ := hfront
        obtain ⟨other, found, hfound⟩ := exists_mark_of_singleKind? hkind cs
        rw [first_of_singleKind? hkind]
        exact ⟨other, d :: found, hfound, by simp [hchars]⟩
      · rw [hchars, List.cons_prefix_cons] at hfront
        obtain ⟨rfl, back, rfl⟩ := hfront
        refine ⟨kind, [d, e], ?_, by simp [hchars]⟩
        rw [first_of_pairKind? hkind, List.cons_append, mark, hkind]

end Lexeme

/-! ## What is cut off -/

/-- A token that is cut off is one that the text starts with. -/
theorem mem_leadingTokens_of_first {c : Char} {cs : List Char} {kind : TokenKind}
    {text : List Char} (h : (Lexeme.first c cs).1 = .token kind text) :
    kind.Admits (String.ofList text) ∧ String.ofList text ∈ leadingTokens (c :: cs) := by
  have hchars := Lexeme.chars_first c cs
  have hregular := Lexeme.regular_first c cs
  have hspelled := Lexeme.isSpelled_first c cs
  rw [h] at hchars hregular hspelled
  have hkind : kind ≠ .eof := by
    rintro rfl
    exact hregular.kind_ne text rfl
  have hadmits := (admits_iff_spells hkind).mpr hspelled
  refine ⟨hadmits, ?_, ?_, kind, hadmits⟩
  · intro hempty
    exact hregular.ne_nil (String.ofList_eq_empty_iff.mp hempty)
  · rw [String.toList_ofList, ← hchars]
    exact List.prefix_append _ _

/-- The code of the remark on a stray character. -/
theorem Lexeme.code_strayRemark (p : Position) (c : Char) :
    (strayRemark p c).code = if c = '=' ∨ c = '!' then "LEXER_INCOMPLETE_OPERATOR"
      else "LEXER_UNEXPECTED_CHARACTER" := by
  rw [strayRemark]
  by_cases hequal : c = '='
  · rw [if_pos hequal, if_pos (Or.inl hequal)]
    rfl
  rw [if_neg hequal]
  by_cases hnot : c = '!'
  · rw [if_pos hnot, if_pos (Or.inr hnot)]
    rfl
  · rw [if_neg hnot, if_neg (by simp [hequal, hnot])]
    rfl

/-- A token or a stray character is what is to be cut off in front of a text. -/
theorem Piece.isMunchOf_first (p : Position) (c : Char) (cs : List Char)
    (h : (ofPlaced (p, (Lexeme.first c cs).1)).token?.isSome ∨
      (ofPlaced (p, (Lexeme.first c cs).1)).diagnostic?.isSome) :
    (ofPlaced (p, (Lexeme.first c cs).1)).IsMunchOf (c :: cs) := by
  cases hfirst : (Lexeme.first c cs).1 with
  | token kind text =>
      obtain ⟨hadmits, hmem⟩ := mem_leadingTokens_of_first hfirst
      refine ⟨fun _ => ⟨⟨kind, String.ofList text, p⟩, rfl, hmem, ?_, ?_⟩, ?_⟩
      · rintro other ⟨-, hfront, otherKind, hother⟩
        obtain ⟨foundKind, found, hfound, hlength⟩ :=
          Lexeme.exists_token_of_admits hother hfront
        obtain ⟨-, rfl⟩ := Lexeme.token.inj (hfirst.symm.trans hfound)
        rw [String.length_ofList, ← String.length_toList]
        exact hlength
      · intro other
        constructor
        · exact hadmits.unique
        · rintro rfl
          exact hadmits
      · intro hempty
        rw [hempty] at hmem
        exact absurd hmem (Set.notMem_empty _)
  | stray d =>
      have hchars := Lexeme.chars_first c cs
      rw [hfirst] at hchars
      obtain ⟨rfl, -⟩ := List.cons.inj hchars
      refine ⟨?_, fun _ => ⟨d, cs, Lexeme.strayRemark p d, rfl, rfl, ?_⟩⟩
      · rintro ⟨text, -, hfront, kind, hadmits⟩
        obtain ⟨other, found, hfound, -⟩ := Lexeme.exists_token_of_admits hadmits hfront
        cases hfirst.symm.trans hfound
      · exact Lexeme.code_strayRemark p d
  | _ =>
      rw [hfirst] at h
      rcases h with h | h <;> cases h

/-- A text is the concatenation of pieces.  Wherever a token starts or a diagnostic is
reported, the grammar settles which one: the longest token that the remaining text
starts with, or one diagnostic for a single character, behind which the text goes on. -/
theorem tokenize_exists_longest (text : String) :
    ∃ pieces : List Piece, ∃ ending : Token,
      pieces.flatMap Piece.chars = text.toList ∧
      (tokenize text).1 = pieces.filterMap Piece.token? ++ [ending] ∧
      ending.kind = .eof ∧
      (tokenize text).2 = pieces.filterMap Piece.diagnostic? ∧
      ∀ front piece back, pieces = front ++ piece :: back →
        piece.IsPlaced (front.flatMap Piece.chars) (back.flatMap Piece.chars) ∧
          (piece.token?.isSome ∨ piece.diagnostic?.isSome →
            piece.IsMunchOf (piece.chars ++ back.flatMap Piece.chars)) := by
  refine ⟨(Lexeme.placedFrom Position.start (lexemes text.toList)).map Piece.ofPlaced,
    Token.ending (Position.start.after text.toList), ?_, ?_, rfl, ?_, ?_⟩
  · rw [Piece.flatMap_chars_ofPlaced, flatMap_chars_lexemes]
  · rw [← tokensOf_eq_filterMap]
    rfl
  · rw [← diagnosticsOf_eq_filterMap]
    rfl
  · intro front piece back hsplit
    refine ⟨isPlaced_of_lexemes Position.standsAfter_start hsplit, ?_⟩
    obtain ⟨c, rest, hrest, rfl, -⟩ := exists_first_of_split hsplit
    rw [hrest]
    exact Piece.isMunchOf_first _ c rest

end Autopilot
