import Autopilot.Diagnostic.Report
import Autopilot.Grammar
import Autopilot.Lexer.Basic

/-!
# Reading a text

A text is cut into tokens and the tokens are read as a script.  The diagnostics of the
two stages are kept apart.
-/

namespace Autopilot

/-- What was read from a text. -/
structure Reading where
  script : Script
  tokens : List Token
  lexerDiagnostics : List Diagnostic
  parserDiagnostics : List Diagnostic
deriving DecidableEq, Repr

namespace Reading

/-- Reads a text. -/
def ofText (text : String) : Except Fault Reading := do
  let (tokens, lexerDiagnostics) := tokenize text
  let (script, parserDiagnostics) ← Script.ofTokens tokens
  return ⟨script, tokens, lexerDiagnostics, parserDiagnostics⟩

/-- The diagnostics of both stages, those on characters first. -/
def diagnostics (reading : Reading) : List Diagnostic :=
  reading.lexerDiagnostics ++ reading.parserDiagnostics

/-- Whether some diagnostic is an error. -/
def hasErrors (reading : Reading) : Bool :=
  Diagnostic.anyError reading.diagnostics

end Reading

end Autopilot
