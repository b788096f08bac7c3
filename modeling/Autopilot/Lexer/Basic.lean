import Autopilot.Diagnostic.Catalogue
import Autopilot.Lexer.Lexeme

/-!
# From text to tokens

The lexemes of a text, each at its place, give the tokens and the diagnostics of the
text: every token lexeme is a token, every stray character is a diagnostic, blanks
and comments are neither.  An end token stands where the text ends.
-/

namespace Autopilot

namespace Lexeme

/-- The token that a lexeme is. -/
def token? (position : Position) : Lexeme → Option Token
  | token kind text => some ⟨kind, String.ofList text, position⟩
  | _ => none

/-- The remark on a character that belongs to no token.  A lone `=` or `!` is taken
for an operator that lacks its second character. -/
def strayRemark (position : Position) (c : Char) : Diagnostic :=
  if c = '=' then
    Remark.incompleteOperator.placed position
      (some "Unexpected character '='. Did you mean '==' for equality comparison?")
      none
  else if c = '!' then
    Remark.incompleteOperator.placed position
      (some "Unexpected character '!'. Did you mean '!=' for not-equal comparison?")
      none
  else
    Remark.unexpectedCharacter.placed position
      (some ("Unexpected character " ++ Text.quoted (String.singleton c))) none

/-- The diagnostic that a lexeme is. -/
def diagnostic? (position : Position) : Lexeme → Option Diagnostic
  | stray c => some (strayRemark position c)
  | _ => none

/-- The lexemes of a text with the places where they start, the first one at a given
place. -/
def placedFrom (position : Position) : List Lexeme → List (Position × Lexeme)
  | [] => []
  | lexeme :: rest =>
    (position, lexeme) :: placedFrom (position.after lexeme.chars) rest

/-- The tokens among placed lexemes. -/
def tokensOf (placed : List (Position × Lexeme)) : List Token :=
  placed.filterMap fun (position, lexeme) => lexeme.token? position

/-- The diagnostics among placed lexemes. -/
def diagnosticsOf (placed : List (Position × Lexeme)) : List Diagnostic :=
  placed.filterMap fun (position, lexeme) => lexeme.diagnostic? position

end Lexeme

/-- The tokens of a text, closed by the end token, and the diagnostics of its stray
characters. -/
def tokenize (text : String) : List Token × List Diagnostic :=
  let cs := text.toList
  let placed := Lexeme.placedFrom Position.start (lexemes cs)
  (Lexeme.tokensOf placed ++ [Token.ending (Position.start.after cs)],
    Lexeme.diagnosticsOf placed)

end Autopilot
