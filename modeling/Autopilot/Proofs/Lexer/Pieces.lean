import Autopilot.Proofs.Lexer.Placement

/-!
# The pieces of a text

A text is made up of tokens, blanks, comments and stray characters, each of which has
one diagnostic.  Tokens and diagnostics stand at the line and the column that are found
by counting the characters before them.
-/

namespace Autopilot

open Text

namespace Position

/-- A position is that of what follows some characters: its line counts the line breaks
among them, its column the characters behind the last one. -/
def StandsAfter (p : Position) (before : List Char) : Prop :=
  p.line = 1 + before.count '\n' ∧
    p.column = 1 + (before.reverse.takeWhile (· ≠ '\n')).length

theorem standsAfter_start : start.StandsAfter [] :=
  ⟨rfl, rfl⟩

theorem StandsAfter.advance {p : Position} {before : List Char}
    (h : p.StandsAfter before) (c : Char) : (p.advance c).StandsAfter (before ++ [c]) := by
  obtain ⟨hline, hcolumn⟩ := h
  constructor
  · rw [line_advance, hline, List.count_append, List.count_singleton, Nat.add_assoc]
    simp
  · rw [Position.advance, List.reverse_concat]
    by_cases hc : c = '\n'
    · rw [if_pos hc]
      simp [hc]
    · rw [if_neg hc]
      simp [hc, hcolumn]
      omega

theorem StandsAfter.after {p : Position} {before : List Char} (h : p.StandsAfter before)
    (cs : List Char) : (p.after cs).StandsAfter (before ++ cs) := by
  induction cs generalizing p before with
  | nil =>
      rw [List.append_nil]
      exact h
  | cons c cs ih =>
      have hrest := ih (h.advance c)
      rw [List.append_assoc] at hrest
      exact hrest

end Position

/-- A piece of a text. -/
inductive Piece where
  | token (found : Token)
  | blank (c : Char)
  | comment (text : List Char)
  | stray (c : Char) (diagnostic : Diagnostic)

namespace Piece

/-- The characters of a piece. -/
def chars : Piece → List Char
  | token found => found.text.toList
  | blank c => [c]
  | comment text => text
  | stray c _ => [c]

/-- The token that a piece is. -/
def token? : Piece → Option Token
  | token found => some found
  | _ => none

/-- The diagnostic of a piece. -/
def diagnostic? : Piece → Option Diagnostic
  | stray _ diagnostic => some diagnostic
  | _ => none

/-- What a piece is that stands between other characters.  A comment reaches up to the
next line break or to the end of the text. -/
def IsPlaced (before after : List Char) : Piece → Prop
  | token found =>
    found.kind ≠ .eof ∧ found.text ≠ "" ∧ found.position.StandsAfter before
  | blank c => c = ' ' ∨ c = '\t' ∨ c = '\r'
  | comment text =>
    (∃ rest, text = '#' :: rest) ∧ '\n' ∉ text ∧ ∀ c ∈ after.head?, c = '\n'
  | stray _ diagnostic =>
    diagnostic.category = some "lexer" ∧ diagnostic.position.StandsAfter before

/-- The piece that a lexeme is at its place. -/
def ofPlaced : Position × Lexeme → Piece
  | (p, .token kind text) => token ⟨kind, String.ofList text, p⟩
  | (_, .blank c) => blank c
  | (_, .comment text) => comment text
  | (p, .stray c) => stray c (Lexeme.strayRemark p c)

theorem chars_ofPlaced (p : Position) (lexeme : Lexeme) :
    (ofPlaced (p, lexeme)).chars = lexeme.chars := by
  cases lexeme with
  | token kind text => exact String.toList_ofList
  | _ => rfl

theorem token?_ofPlaced (p : Position) (lexeme : Lexeme) :
    (ofPlaced (p, lexeme)).token? = lexeme.token? p := by
  cases lexeme with
  | _ => rfl

theorem diagnostic?_ofPlaced (p : Position) (lexeme : Lexeme) :
    (ofPlaced (p, lexeme)).diagnostic? = lexeme.diagnostic? p := by
  cases lexeme with
  | _ => rfl

theorem flatMap_chars_ofPlaced (p : Position) (ls : List Lexeme) :
    ((Lexeme.placedFrom p ls).map ofPlaced).flatMap chars = ls.flatMap Lexeme.chars := by
  induction ls generalizing p with
  | nil => rfl
  | cons lexeme ls ih =>
      rw [Lexeme.placedFrom, List.map_cons, List.flatMap_cons, List.flatMap_cons, ih,
        chars_ofPlaced]

section First

variable {p : Position} {before : List Char}

theorem isPlaced_token {kind : TokenKind} {text after : List Char}
    (h : p.StandsAfter before) (hkind : kind ≠ .eof) (htext : text ≠ []) :
    (ofPlaced (p, .token kind text)).IsPlaced before after := by
  refine ⟨hkind, ?_, h⟩
  intro hempty
  exact htext (String.ofList_eq_empty_iff.mp hempty)

theorem isPlaced_stray {c : Char} {after : List Char} (h : p.StandsAfter before) :
    (ofPlaced (p, .stray c)).IsPlaced before after := by
  change (Lexeme.strayRemark p c).category = some "lexer" ∧
    (Lexeme.strayRemark p c).position.StandsAfter before
  rw [Lexeme.strayRemark]
  split
  · exact ⟨rfl, h⟩
  split
  · exact ⟨rfl, h⟩
  · exact ⟨rfl, h⟩

theorem isPlaced_single {c : Char} {after : List Char} (h : p.StandsAfter before) :
    (ofPlaced (p, Lexeme.single c)).IsPlaced before after := by
  rw [Lexeme.single]
  split
  · rename_i kind hkind
    exact isPlaced_token h (singleKind?_ne hkind).1 (by simp)
  · exact isPlaced_stray h

theorem isPlaced_mark {c : Char} {cs after : List Char} (h : p.StandsAfter before) :
    (ofPlaced (p, (Lexeme.mark c cs).1)).IsPlaced before after := by
  cases cs with
  | nil => exact isPlaced_single h
  | cons d rest =>
      rw [Lexeme.mark]
      split
      · rename_i kind hkind
        exact isPlaced_token h (pairKind?_ne hkind).1.1 (by simp)
      · exact isPlaced_single h

/-- The first lexeme of a text is a piece between what is before the text and what
follows the lexeme. -/
theorem isPlaced_first (c : Char) (cs : List Char) (h : p.StandsAfter before) :
    (ofPlaced (p, (Lexeme.first c cs).1)).IsPlaced before (Lexeme.first c cs).2 := by
  rw [Lexeme.first]
  split
  · rename_i hblank
    change c = ' ' ∨ c = '\t' ∨ c = '\r'
    simpa [isBlank, or_assoc] using hblank
  split
  · rename_i hhash
    refine ⟨⟨_, congrArg (· :: _) hhash⟩, ?_, ?_⟩
    · rw [hhash, List.mem_cons]
      rintro (hfirst | hrest)
      · cases hfirst
      · exact not_mem_takeWhile (by simp) cs hrest
    · intro d hd
      have hstop := List.head?_dropWhile_not (· ≠ '\n') cs
      rw [Option.mem_def.mp hd] at hstop
      simpa using hstop
  split
  · exact isPlaced_token h (by decide) (by simp)
  split
  · exact isPlaced_token h (wordKind_ne _).1 (by simp)
  split
  · rename_i hdigit
    exact isPlaced_token h (by decide) (splitNumber_cons_ne_nil cs hdigit)
  · exact isPlaced_mark h

end First

end Piece

/-- A piece of a text is the first lexeme of the text that starts where the piece
does. -/
theorem exists_first_of_split {cs : List Char} {p : Position} {front back : List Piece}
    {piece : Piece}
    (hsplit : (Lexeme.placedFrom p (lexemes cs)).map Piece.ofPlaced =
      front ++ piece :: back) :
    ∃ c rest, piece.chars ++ back.flatMap Piece.chars = c :: rest ∧
      piece = Piece.ofPlaced
        (p.after (front.flatMap Piece.chars), (Lexeme.first c rest).1) ∧
      back.flatMap Piece.chars = (Lexeme.first c rest).2 := by
  fun_induction lexemes cs generalizing p front with
  | case1 => simp [Lexeme.placedFrom] at hsplit
  | case2 c cs ih =>
      rw [Lexeme.placedFrom, List.map_cons] at hsplit
      cases front with
      | nil =>
          obtain ⟨rfl, rfl⟩ := List.cons.inj hsplit
          rw [Piece.chars_ofPlaced, Piece.flatMap_chars_ofPlaced, flatMap_chars_lexemes]
          exact ⟨c, cs, Lexeme.chars_first c cs, rfl, rfl⟩
      | cons first front =>
          obtain ⟨rfl, hrest⟩ := List.cons.inj hsplit
          rw [List.flatMap_cons, Piece.chars_ofPlaced, Position.after_append]
          exact ih hrest

/-- The pieces of the text that follows some characters stand where they are found by
counting. -/
theorem isPlaced_of_lexemes {cs : List Char} {p : Position} {before : List Char}
    (h : p.StandsAfter before) {front back : List Piece} {piece : Piece}
    (hsplit : (Lexeme.placedFrom p (lexemes cs)).map Piece.ofPlaced =
      front ++ piece :: back) :
    piece.IsPlaced (before ++ front.flatMap Piece.chars) (back.flatMap Piece.chars) := by
  obtain ⟨c, rest, -, rfl, hback⟩ := exists_first_of_split hsplit
  rw [hback]
  exact Piece.isPlaced_first c rest (h.after _)

theorem tokensOf_eq_filterMap (placed : List (Position × Lexeme)) :
    Lexeme.tokensOf placed = (placed.map Piece.ofPlaced).filterMap Piece.token? := by
  rw [List.filterMap_map, Lexeme.tokensOf]
  congr 1
  funext entry
  exact (Piece.token?_ofPlaced entry.1 entry.2).symm

theorem diagnosticsOf_eq_filterMap (placed : List (Position × Lexeme)) :
    Lexeme.diagnosticsOf placed =
      (placed.map Piece.ofPlaced).filterMap Piece.diagnostic? := by
  rw [List.filterMap_map, Lexeme.diagnosticsOf]
  congr 1
  funext entry
  exact (Piece.diagnostic?_ofPlaced entry.1 entry.2).symm

theorem position_of_diagnostic? {p : Position} {lexeme : Lexeme} {d : Diagnostic}
    (h : lexeme.diagnostic? p = some d) : d.position = p := by
  cases lexeme with
  | stray c =>
      rw [← Option.some.inj h, Lexeme.strayRemark]
      split
      · rfl
      split
      · rfl
      · rfl
  | _ => cases h

theorem mem_of_mem_diagnosticsOf {placed : List (Position × Lexeme)} {d : Diagnostic}
    (h : d ∈ Lexeme.diagnosticsOf placed) : d.position ∈ placed.map (·.1) := by
  obtain ⟨⟨p, lexeme⟩, hentry, hd⟩ := List.mem_filterMap.mp h
  rw [position_of_diagnostic? hd]
  exact List.mem_map_of_mem hentry

/-- The diagnostics of a text stand one behind the other. -/
theorem pairwise_tokenize_diagnostics (text : String) :
    (tokenize text).2.Pairwise fun a b => a.position < b.position := by
  have hchars : ∀ lexeme ∈ lexemes text.toList, lexeme.chars ≠ [] := by
    intro lexeme hlexeme
    exact (regular_of_mem_lexemes lexeme hlexeme).ne_nil
  have hplaces := (Lexeme.pairwise_placedFrom Position.start hchars).1
  have hplaced := (List.pairwise_map.mp (List.pairwise_append.mp hplaces).1)
  apply List.Pairwise.filterMap _ _ hplaced
  rintro ⟨p, lexeme⟩ ⟨q, other⟩ hpq d hd e he
  rw [position_of_diagnostic? hd, position_of_diagnostic? he]
  exact hpq

/-- A text is the concatenation of pieces: its tokens, blanks, comments and stray
characters.  The tokens of the text are those of the pieces and, behind them, the end
token; its diagnostics are those of the stray characters.  All stand where they are
found by counting, one behind the other. -/
theorem tokenize_exists_pieces (text : String) :
    ∃ pieces : List Piece, ∃ ending : Token,
      pieces.flatMap Piece.chars = text.toList ∧
      (∀ front piece back, pieces = front ++ piece :: back →
        piece.IsPlaced (front.flatMap Piece.chars) (back.flatMap Piece.chars)) ∧
      (tokenize text).1 = pieces.filterMap Piece.token? ++ [ending] ∧
      ending.kind = .eof ∧ ending.text = "" ∧
      ending.position.StandsAfter text.toList ∧
      (tokenize text).2 = pieces.filterMap Piece.diagnostic? ∧
      (tokenize text).1.Pairwise (fun a b => a.position < b.position) ∧
      (tokenize text).2.Pairwise (fun a b => a.position < b.position) := by
  obtain ⟨body, ending, htokens, -, -, hplaced⟩ := exists_tokenize text
  refine ⟨(Lexeme.placedFrom Position.start (lexemes text.toList)).map Piece.ofPlaced,
    Token.ending (Position.start.after text.toList), ?_, ?_, ?_, rfl, rfl, ?_, ?_, ?_,
    pairwise_tokenize_diagnostics text⟩
  · rw [Piece.flatMap_chars_ofPlaced, flatMap_chars_lexemes]
  · intro front piece back hsplit
    exact isPlaced_of_lexemes Position.standsAfter_start hsplit
  · rw [← tokensOf_eq_filterMap]
    rfl
  · exact Position.standsAfter_start.after text.toList
  · rw [← diagnosticsOf_eq_filterMap]
    rfl
  · rw [htokens]
    exact hplaced.increasing

end Autopilot
