import Autopilot.Proofs.Lexer.Placement

/-!
# Texts joined by a line break

No lexeme reaches over a line break.  What stands behind a line break is cut as it is
when it stands alone, only some lines further down.
-/

namespace Autopilot

open Text

/-! ## Further down -/

/-- The place some lines further down. -/
def Position.lowered (p : Position) (lines : Nat) : Position where
  line := p.line + lines
  column := p.column
  line_pos := Nat.le_add_right_of_le p.line_pos
  column_pos := p.column_pos

def Token.lowered (lines : Nat) (token : Token) : Token :=
  { token with position := token.position.lowered lines }

def Diagnostic.lowered (lines : Nat) (d : Diagnostic) : Diagnostic :=
  { d with position := d.position.lowered lines }

namespace Position

theorem lowered_inj {p q : Position} {lines : Nat} :
    p.lowered lines = q.lowered lines ↔ p = q := by
  constructor
  · intro h
    have hline := congrArg Position.line h
    have hcolumn := congrArg Position.column h
    simp only [lowered] at hline hcolumn
    ext
    · omega
    · exact hcolumn
  · rintro rfl
    rfl

theorem advance_lowered (p : Position) (lines : Nat) (c : Char) :
    (p.lowered lines).advance c = (p.advance c).lowered lines := by
  rw [advance, advance]
  by_cases hc : c = '\n'
  · rw [if_pos hc, if_pos hc]
    ext
    · simp only [lowered]
      omega
    · rfl
  · rw [if_neg hc, if_neg hc]
    rfl

theorem after_lowered (p : Position) (lines : Nat) (cs : List Char) :
    (p.lowered lines).after cs = (p.after cs).lowered lines := by
  induction cs generalizing p with
  | nil => rfl
  | cons c cs ih => rw [after_cons, advance_lowered, ih, after_cons]

/-- A new line starts as the text does. -/
theorem advance_newline (p : Position) : p.advance '\n' = start.lowered p.line := by
  ext
  · simp only [advance, lowered, start, if_true]
    omega
  · rfl

end Position

namespace Lexeme

theorem token?_lowered (lexeme : Lexeme) (p : Position) (lines : Nat) :
    lexeme.token? (p.lowered lines) =
      (lexeme.token? p).map (Token.lowered lines) := by
  cases lexeme <;> rfl

theorem strayRemark_lowered (p : Position) (lines : Nat) (c : Char) :
    strayRemark (p.lowered lines) c = (strayRemark p c).lowered lines := by
  rw [strayRemark, strayRemark]
  by_cases hequal : c = '='
  · rw [if_pos hequal, if_pos hequal]
    rfl
  · by_cases hmark : c = '!'
    · rw [if_neg hequal, if_neg hequal, if_pos hmark, if_pos hmark]
      rfl
    · rw [if_neg hequal, if_neg hequal, if_neg hmark, if_neg hmark]
      rfl

theorem diagnostic?_lowered (lexeme : Lexeme) (p : Position) (lines : Nat) :
    lexeme.diagnostic? (p.lowered lines) =
      (lexeme.diagnostic? p).map (Diagnostic.lowered lines) := by
  cases lexeme with
  | stray c => exact congrArg some (strayRemark_lowered p lines c)
  | _ => rfl

theorem diagnosticsOf_cons (p : Position) (lexeme : Lexeme)
    (placed : List (Position × Lexeme)) :
    diagnosticsOf ((p, lexeme) :: placed) =
      (lexeme.diagnostic? p).toList ++ diagnosticsOf placed := by
  cases hdiagnostic : lexeme.diagnostic? p with
  | none => simp [diagnosticsOf, hdiagnostic]
  | some d => simp [diagnosticsOf, hdiagnostic]

theorem tokensOf_placedFrom_lowered (p : Position) (lines : Nat) (ls : List Lexeme) :
    tokensOf (placedFrom (p.lowered lines) ls) =
      (tokensOf (placedFrom p ls)).map (Token.lowered lines) := by
  induction ls generalizing p with
  | nil => rfl
  | cons lexeme ls ih =>
      rw [placedFrom, placedFrom, tokensOf_cons, tokensOf_cons, List.map_append,
        Position.after_lowered, ih, token?_lowered]
      cases lexeme.token? p <;> rfl

theorem diagnosticsOf_placedFrom_lowered (p : Position) (lines : Nat)
    (ls : List Lexeme) :
    diagnosticsOf (placedFrom (p.lowered lines) ls) =
      (diagnosticsOf (placedFrom p ls)).map (Diagnostic.lowered lines) := by
  induction ls generalizing p with
  | nil => rfl
  | cons lexeme ls ih =>
      rw [placedFrom, placedFrom, diagnosticsOf_cons, diagnosticsOf_cons,
        List.map_append, Position.after_lowered, ih, diagnostic?_lowered]
      cases lexeme.diagnostic? p <;> rfl

end Lexeme

/-! ## Cutting at a line break -/

section Stop

variable {p : Char → Bool} {d : Char}

theorem takeWhile_append_stop (hd : p d = false) (cs rest : List Char) :
    (cs ++ d :: rest).takeWhile p = cs.takeWhile p := by
  induction cs with
  | nil => simp [hd]
  | cons c cs ih =>
      rw [List.cons_append, List.takeWhile_cons, List.takeWhile_cons, ih]

theorem dropWhile_append_stop (hd : p d = false) (cs rest : List Char) :
    (cs ++ d :: rest).dropWhile p = cs.dropWhile p ++ d :: rest := by
  induction cs with
  | nil => simp [hd]
  | cons c cs ih =>
      rw [List.cons_append, List.dropWhile_cons, List.dropWhile_cons, ih]
      split <;> rfl

end Stop

/-- A number ends where neither a digit nor a point stands. -/
theorem splitNumber_append_stop {d : Char} (hdigit : isDigit d = false) (hpoint : d ≠ '.')
    (cs rest : List Char) :
    splitNumber (cs ++ d :: rest) =
      ((splitNumber cs).1, (splitNumber cs).2 ++ d :: rest) := by
  unfold splitNumber
  rw [takeWhile_append_stop hdigit, dropWhile_append_stop hdigit]
  rcases cs.dropWhile isDigit with _ | ⟨c, _ | ⟨e, more⟩⟩
  · simp [hpoint]
  · by_cases hc : c = '.'
    · simp [hc, hdigit]
    · simp [hc]
  · by_cases hc : c = '.'
    · by_cases he : isDigit e = true
      · simp [hc, he, takeWhile_append_stop hdigit, dropWhile_append_stop hdigit]
      · simp [hc, he]
    · simp [hc]

namespace Lexeme

theorem mark_append_newline (c : Char) (cs rest : List Char) :
    mark c (cs ++ '\n' :: rest) = ((mark c cs).1, (mark c cs).2 ++ '\n' :: rest) := by
  cases cs with
  | nil => rfl
  | cons d cs =>
      rw [List.cons_append, mark, mark]
      cases pairKind? c d <;> rfl

theorem first_append_newline (c : Char) (cs rest : List Char) :
    first c (cs ++ '\n' :: rest) =
      ((first c cs).1, (first c cs).2 ++ '\n' :: rest) := by
  rw [first, first]
  split
  · rfl
  split
  · rw [takeWhile_append_stop (by simp), dropWhile_append_stop (by simp)]
  split
  · rfl
  split
  · rw [takeWhile_append_stop (by decide), dropWhile_append_stop (by decide)]
  split
  · rw [← List.cons_append, splitNumber_append_stop (by decide) (by decide)]
  · exact mark_append_newline c cs rest

end Lexeme

/-- The lexemes of two lines are those of the first, the break, and those of the
second. -/
theorem lexemes_append_newline (cs rest : List Char) :
    lexemes (cs ++ '\n' :: rest) =
      lexemes cs ++ .token .newline ['\n'] :: lexemes rest := by
  fun_induction lexemes cs with
  | case1 =>
      rw [List.nil_append, lexemes]
      rfl
  | case2 c cs ih =>
      rw [List.cons_append, lexemes, Lexeme.first_append_newline, ih]
      rfl

theorem Lexeme.placedFrom_append_newline (cs rest : List Char) :
    placedFrom Position.start (lexemes (cs ++ '\n' :: rest)) =
      placedFrom Position.start (lexemes cs) ++
        (Position.start.after cs, token .newline ['\n']) ::
          placedFrom (Position.start.lowered (1 + cs.count '\n')) (lexemes rest) := by
  have hline : (Position.start.after cs).line = 1 + cs.count '\n' :=
    Position.line_after _ _
  rw [lexemes_append_newline, placedFrom_append, flatMap_chars_lexemes, placedFrom,
    ← hline, ← Position.advance_newline]
  rfl

/-- The tokens of two texts joined by a line break: the break stands where the first
text ends. -/
theorem tokens_append_newline (a b : String) :
    let lines := 1 + a.toList.count '\n'
    ∃ body place, (tokenize a).1 = body ++ [Token.ending place] ∧
      place.line = lines ∧
      (tokenize (a ++ "\n" ++ b)).1 = body ++ ⟨.newline, "\n", place⟩ ::
        (tokenize b).1.map (Token.lowered lines) := by
  intro lines
  have hline : (Position.start.after a.toList).line = lines :=
    Position.line_after _ _
  have htext : (a ++ "\n" ++ b).toList = a.toList ++ '\n' :: b.toList := by simp
  have hend : Position.start.after (a.toList ++ '\n' :: b.toList) =
      (Position.start.after b.toList).lowered lines := by
    rw [Position.after_append, Position.after_cons, Position.advance_newline,
      Position.after_lowered, hline]
  refine ⟨_, Position.start.after a.toList, rfl, hline, ?_⟩
  simp only [tokenize]
  rw [htext, hend, Lexeme.placedFrom_append_newline, Lexeme.tokensOf,
    List.filterMap_append, ← Lexeme.tokensOf, ← Lexeme.tokensOf, Lexeme.tokensOf_cons,
    Lexeme.tokensOf_placedFrom_lowered, List.map_append, List.append_assoc]
  rfl

/-- The diagnostics on characters of two texts joined by a line break. -/
theorem lexerDiagnostics_append_newline (a b : String) :
    (tokenize (a ++ "\n" ++ b)).2 = (tokenize a).2 ++
      (tokenize b).2.map (Diagnostic.lowered (1 + a.toList.count '\n')) := by
  have htext : (a ++ "\n" ++ b).toList = a.toList ++ '\n' :: b.toList := by simp
  simp only [tokenize]
  rw [htext, Lexeme.placedFrom_append_newline, Lexeme.diagnosticsOf,
    List.filterMap_append, ← Lexeme.diagnosticsOf, ← Lexeme.diagnosticsOf,
    Lexeme.diagnosticsOf_cons, Lexeme.diagnosticsOf_placedFrom_lowered]
  rfl

end Autopilot
