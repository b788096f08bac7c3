import Autopilot.Proofs.Lexer.Placement
import Autopilot.Proofs.Script.Spelling
import Mathlib.Tactic.SplitIfs

/-!
# The spelling of tokens

Every token of a text is spelled as its kind demands: a name is a word that is no
keyword, a keyword is a word in any letter case, a number is a numeral, and each other
kind has a single text.
-/

namespace Autopilot

open Text

/-- Whether a text is a spelling of a kind of tokens. -/
def TokenKind.Spells : TokenKind → String → Prop
  | eof, text => text = ""
  | newline, text => text = "\n"
  | identifier, text => IsName text
  | number, text => IsNumeral text.toList
  | lessThan, text => text = "<"
  | lessOrEqual, text => text = "<="
  | greaterThan, text => text = ">"
  | greaterOrEqual, text => text = ">="
  | equalTo, text => text = "=="
  | notEqualTo, text => text = "!="
  | leftParen, text => text = "("
  | rightParen, text => text = ")"
  | comma, text => text = ","
  | kind, text => isWord text = true ∧ keywordKind? text = some kind

/-- A token is spelled as its kind demands. -/
def Token.IsSpelled (token : Token) : Prop :=
  token.kind.Spells token.text

theorem kind_of_mem_keywords {word : String} {kind : TokenKind}
    (h : (word, kind) ∈ keywords) :
    kind = .ifWord ∨ kind = .thenWord ∨ kind = .elseWord ∨ kind = .andWord ∨
      kind = .orWord := by
  simp only [keywords, List.mem_cons, Prod.mk.injEq, List.not_mem_nil, or_false] at h
  rcases h with ⟨-, h⟩ | ⟨-, h⟩ | ⟨-, h⟩ | ⟨-, h⟩ | ⟨-, h⟩ <;> simp [h]

/-- The kind of a word is the one that it is a spelling of. -/
theorem wordKind_of_keywordKind? {word : String} {kind : TokenKind}
    (h : (keywordKind? word).getD .identifier = kind) : wordKind word.toList = kind := by
  rw [wordKind, String.ofList_toList, h]

/-- A word is a spelling of the kind that it is given. -/
theorem spells_wordKind {word : List Char} (h : isWord (String.ofList word) = true) :
    (wordKind word).Spells (String.ofList word) := by
  rw [wordKind]
  cases hkeyword : keywordKind? (String.ofList word) with
  | none => exact ⟨h, hkeyword⟩
  | some kind =>
      obtain ⟨front, back, hsplit, -⟩ := List.lookup_eq_some_iff.mp hkeyword
      have hmem : (lowercase (String.ofList word), kind) ∈ keywords := by
        rw [hsplit]
        simp
      rcases kind_of_mem_keywords hmem with rfl | rfl | rfl | rfl | rfl <;>
        exact ⟨h, hkeyword⟩

theorem areDigits_takeWhile {c : Char} (cs : List Char) (h : isDigit c = true) :
    areDigits ((c :: cs).takeWhile isDigit) = true := by
  rw [areDigits, List.all_takeWhile, Bool.and_true, List.takeWhile_cons_of_pos h]
  rfl

/-- What is split off as a number is a numeral. -/
theorem isNumeral_splitNumber {c : Char} (cs : List Char) (h : isDigit c = true) :
    IsNumeral (splitNumber (c :: cs)).1 := by
  have hwhole := areDigits_takeWhile cs h
  rw [splitNumber]
  split
  · rename_i d rest hdrop
    split
    · rename_i hd
      refine Or.inr ⟨_, d :: rest.takeWhile isDigit, rfl, hwhole, ?_⟩
      rw [← List.takeWhile_cons_of_pos hd]
      exact areDigits_takeWhile _ hd
    · exact Or.inl hwhole
  · exact Or.inl hwhole

theorem spells_pairKind? {c d : Char} {kind : TokenKind} (h : pairKind? c d = some kind) :
    kind.Spells (String.ofList [c, d]) := by
  simp only [pairKind?, Option.ite_none_right_eq_some] at h
  obtain ⟨rfl, h⟩ := h
  split_ifs at h with hc hc hc hc <;> cases h <;> cases hc <;> rfl

theorem spells_singleKind? {c : Char} {kind : TokenKind} (h : singleKind? c = some kind) :
    kind.Spells (String.ofList [c]) := by
  simp only [singleKind?] at h
  split_ifs at h with hc hc hc hc hc <;> cases h <;> cases hc <;> rfl

namespace Lexeme

/-- The token that a lexeme is, if it is one, is spelled as its kind demands. -/
def IsSpelled : Lexeme → Prop
  | token kind text => kind.Spells (String.ofList text)
  | _ => True

theorem isSpelled_single (c : Char) : (single c).IsSpelled := by
  rw [single]
  split
  · rename_i kind hkind
    exact spells_singleKind? hkind
  · trivial

theorem isSpelled_mark (c : Char) (cs : List Char) : (mark c cs).1.IsSpelled := by
  cases cs with
  | nil => exact isSpelled_single c
  | cons d rest =>
      rw [mark]
      split
      · rename_i kind hkind
        exact spells_pairKind? hkind
      · exact isSpelled_single c

theorem isSpelled_first (c : Char) (cs : List Char) : (first c cs).1.IsSpelled := by
  rw [first]
  split
  · trivial
  split
  · trivial
  split
  · rename_i hc
    rw [hc]
    rfl
  split
  · rename_i hstart
    rw [IsSpelled]
    refine spells_wordKind ?_
    rw [isWord, String.toList_ofList, Bool.and_eq_true]
    exact ⟨hstart, List.all_takeWhile⟩
  split
  · rename_i hdigit
    change IsNumeral (String.ofList (splitNumber (c :: cs)).1).toList
    rw [String.toList_ofList]
    exact isNumeral_splitNumber cs hdigit
  · exact isSpelled_mark c cs

theorem isSpelled_of_mem_lexemes {cs : List Char} :
    ∀ lexeme ∈ lexemes cs, lexeme.IsSpelled := by
  fun_induction lexemes cs with
  | case1 => simp
  | case2 c cs ih =>
      intro lexeme hmem
      rcases List.mem_cons.mp hmem with rfl | hmem
      · exact isSpelled_first c cs
      · exact ih lexeme hmem

theorem isSpelled_of_mem_tokensOf {p : Position} {ls : List Lexeme}
    (h : ∀ lexeme ∈ ls, lexeme.IsSpelled) :
    ∀ token ∈ tokensOf (placedFrom p ls), token.IsSpelled := by
  induction ls generalizing p with
  | nil => simp [placedFrom, tokensOf]
  | cons lexeme ls ih =>
      obtain ⟨hlexeme, hrest⟩ := List.forall_mem_cons.mp h
      intro found hfound
      rw [placedFrom, tokensOf_cons] at hfound
      rcases List.mem_append.mp hfound with hfound | hfound
      · cases lexeme with
        | token kind text =>
            obtain rfl := List.mem_singleton.mp hfound
            exact hlexeme
        | _ => cases hfound
      · exact ih hrest found hfound

end Lexeme

/-! ## Spellings are cut off again -/

/-- Whether a text goes on with nothing or with a blank. -/
def StartsBlank (rest : List Char) : Prop :=
  ∀ c ∈ rest.head?, isBlank c = true

theorem startsBlank_nil : StartsBlank [] := by
  rintro c ⟨⟩

theorem StartsBlank.startsApart {rest : List Char} (h : StartsBlank rest) :
    StartsApart rest := by
  intro c hc
  have hblank := h c hc
  simp only [isBlank, Bool.or_eq_true, decide_eq_true_eq] at hblank
  rcases hblank with (rfl | rfl) | rfl <;> decide

theorem StartsBlank.pairKind? {rest : List Char} (h : StartsBlank rest) (c : Char) :
    ∀ d ∈ rest.head?, pairKind? c d = none := by
  intro d hd
  rw [Autopilot.pairKind?, if_neg]
  rintro rfl
  exact absurd (h '=' hd) (by decide)

/-- A spelling of a kind of tokens is cut off where it stands before a blank or at the
end of a text. -/
theorem TokenKind.Spells.leads {kind : TokenKind} {text : String} (h : kind.Spells text)
    (hkind : kind ≠ .eof) {rest : List Char} (hrest : StartsBlank rest) :
    (Lexeme.token kind text.toList).Leads rest := by
  have hword : isWord text = true → (keywordKind? text).getD .identifier = kind →
      (Lexeme.token kind text.toList).Leads rest := by
    intro hword hkeyword
    rw [← wordKind_of_keywordKind? hkeyword]
    exact Lexeme.leads_word hword hrest.startsApart
  cases kind with
  | eof => exact absurd rfl hkind
  | newline =>
      cases h
      exact Lexeme.leads_newline rest
  | identifier => exact hword h.1 (by rw [h.2, Option.getD_none])
  | number => exact Lexeme.leads_number h hrest.startsApart
  | ifWord | thenWord | elseWord | andWord | orWord =>
      exact hword h.1 (by rw [h.2, Option.getD_some])
  | lessThan | greaterThan | leftParen | rightParen | comma =>
      cases h
      exact Lexeme.leads_single rest (fun _ => rfl) rfl (hrest.pairKind? _)
  | lessOrEqual | greaterOrEqual | equalTo | notEqualTo =>
      cases h
      exact ⟨_, _, rfl, rfl⟩

/-- Every token of a text is spelled as its kind demands. -/
theorem isSpelled_of_mem_tokenize {text : String} :
    ∀ token ∈ (tokenize text).1, token.IsSpelled := by
  intro token htoken
  rcases List.mem_append.mp htoken with htoken | htoken
  · exact Lexeme.isSpelled_of_mem_tokensOf Lexeme.isSpelled_of_mem_lexemes token htoken
  · obtain rfl := List.mem_singleton.mp htoken
    rfl

end Autopilot
