import Autopilot.Position

/-!
# Diagnostics

A diagnostic is one remark about a place in a script.  It names its kind by a code,
and is an error or a warning.
-/

namespace Autopilot

/-- How grave a diagnostic is. -/
inductive Severity where
  | error
  | warning
deriving DecidableEq, Repr

/-- The word for a severity. -/
def Severity.word : Severity → String
  | .error => "error"
  | .warning => "warning"

/-- A remark about a place in a script. -/
structure Diagnostic where
  code : String
  message : String
  position : Position
  severity : Severity := .error
  hint : Option String := none
  category : Option String := none
deriving DecidableEq, Repr

namespace Diagnostic

/-- Whether a diagnostic is an error. -/
def isError (d : Diagnostic) : Bool :=
  d.severity = .error

/-- A diagnostic on one line: place, severity, code and message, and the hint in
parentheses if there is one. -/
def render (d : Diagnostic) : String :=
  "[Line " ++ toString d.position.line ++ ", Column " ++
    toString d.position.column ++ "] " ++ d.severity.word ++ " " ++ d.code ++ ": " ++
    d.message ++
    match d.hint with
    | none => ""
    | some hint => if hint = "" then "" else " (" ++ hint ++ ")"

end Diagnostic

end Autopilot
