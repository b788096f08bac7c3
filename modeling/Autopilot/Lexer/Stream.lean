import Autopilot.Lexer.Basic

/-!
# Reading tokens one at a time

A lexer stands somewhere in a text and gives the tokens from there on, one by one or
all together.  At the end of the text it gives the end token, as often as it is
asked; reading all tokens stops after the first end token.
-/

namespace Autopilot

/-- A lexer on its way through a text. -/
structure Lexer where
  /-- The text that is still to be read. -/
  rest : List Char
  /-- The place of the first unread character. -/
  position : Position
  /-- Whether the end token has been given. -/
  finished : Bool
  /-- The diagnostics of the text read so far. -/
  diagnostics : List Diagnostic

namespace Lexer

/-- A lexer at the start of a text. -/
def ofText (text : String) : Lexer :=
  ⟨text.toList, Position.start, false, []⟩

/-- Whether no character is left. -/
def atEnd (lexer : Lexer) : Bool :=
  lexer.rest.isEmpty

/-- The lexer after a lexeme that is followed by the given text. -/
def pass (lexer : Lexer) (lexeme : Lexeme) (rest : List Char) : Lexer where
  rest := rest
  position := lexer.position.after lexeme.chars
  finished := lexer.finished
  diagnostics :=
    lexer.diagnostics ++ (lexeme.diagnostic? lexer.position).toList

/-- The next token and the lexer after it. -/
def next (lexer : Lexer) : Token × Lexer :=
  match _hrest : lexer.rest with
  | [] => (Token.ending lexer.position, { lexer with finished := true })
  | c :: cs =>
    let after := lexer.pass (Lexeme.first c cs).1 (Lexeme.first c cs).2
    match (Lexeme.first c cs).1.token? lexer.position with
    | some token => (token, after)
    | none => next after
termination_by lexer.rest.length
decreasing_by
  have := Lexeme.length_first_le c cs
  simp only [pass, _hrest, List.length_cons]
  omega

/-- A token before the end of the text uses up some of the text. -/
theorem length_rest_next_lt {lexer : Lexer} (hstart : lexer.finished = false)
    (h : lexer.next.2.finished = false) :
    lexer.next.2.rest.length < lexer.rest.length := by
  fun_induction next lexer with
  | case1 lexer hrest => simp at h
  | case2 lexer c cs hrest after token htoken =>
    have := Lexeme.length_first_le c cs
    simp only [after, pass, hrest, List.length_cons]
    omega
  | case3 lexer c cs hrest after htoken ih =>
    have := Lexeme.length_first_le c cs
    have hafter : after.rest.length ≤ cs.length := this
    have := ih hstart h
    rw [hrest, List.length_cons]
    omega

/-- All tokens that are left, up to the first end token, and the lexer after them. -/
def lex (lexer : Lexer) : List Token × Lexer :=
  if _hstart : lexer.finished then ([], lexer)
  else
    let step := lexer.next
    if _hstep : step.2.finished then ([step.1], step.2)
    else
      let following := lex step.2
      (step.1 :: following.1, following.2)
termination_by lexer.rest.length
decreasing_by
  exact length_rest_next_lt (by simpa using _hstart) (by simpa using _hstep)

/-- What a reader may ask of a lexer. -/
inductive Request where
  | next
  | lex
deriving DecidableEq, Repr

/-- The tokens given for a request, and the lexer after it. -/
def answer (lexer : Lexer) : Request → List Token × Lexer
  | .next => ([lexer.next.1], lexer.next.2)
  | .lex => lexer.lex

end Lexer

end Autopilot
