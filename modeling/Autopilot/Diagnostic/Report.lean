import Autopilot.Diagnostic.Basic

/-!
# Reports

A report gathers the diagnostics of several stages, drops repeated ones and puts the
rest in the order of the text.
-/

namespace Autopilot

namespace Diagnostic

/-- Whether some diagnostic is an error. -/
def anyError (ds : List Diagnostic) : Bool :=
  ds.any isError

/-- The order of a report: by position, then by code. -/
def notAfter (d e : Diagnostic) : Bool :=
  d.position < e.position || (d.position = e.position && d.code ≤ e.code)

/-- The diagnostics in the order of a report; those that it does not tell apart keep
their order. -/
def sorted (ds : List Diagnostic) : List Diagnostic :=
  ds.mergeSort notAfter

/-- Whether two diagnostics say the same about the same place. -/
def sameRemark (d e : Diagnostic) : Bool :=
  d.position = e.position && d.code = e.code && d.message = e.message && d.hint = e.hint

/-- The diagnostics without those that repeat an earlier one. -/
def distinct : List Diagnostic → List Diagnostic
  | [] => []
  | d :: rest => d :: (distinct rest).filter fun e => !d.sameRemark e

/-- The report on a list of diagnostics. -/
def merged (ds : List Diagnostic) : List Diagnostic :=
  sorted (distinct ds)

end Diagnostic

end Autopilot
