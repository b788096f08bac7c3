import Autopilot.Diagnostic.Basic
import Autopilot.Script.Text
import Autopilot.Tick.Run

/-!
# Results of a tick

A tick ends in one of five ways: a command acted, a name was unknown to the world, a
command had no handler, a condition held but its command did not act, or no statement
was left.  Everything else about a tick follows from how it ended.
-/

namespace Autopilot

/-- The command that acted in a tick. -/
structure Action where
  command : Command
  line : Int
  via : StatementKind
  messages : List String
deriving DecidableEq, Repr

/-- A name that the world did not know. -/
structure Failure where
  kind : NameKind
  name : String
  line : Int
  diagnostic : Diagnostic
deriving DecidableEq, Repr

/-- How a tick ended. -/
inductive Ending where
  | acted (action : Action)
  | failed (failure : Failure)
  /-- A command without a handler was reached. -/
  | unhandled (line : Int) (diagnostic : Diagnostic)
  /-- A condition held, but its command did not act. -/
  | idle (line : Int)
  /-- No statement was left. -/
  | exhausted
deriving DecidableEq, Repr

namespace Ending

/-- The command that acted. -/
def action? : Ending → Option Action
  | acted action => some action
  | _ => none

/-- The name that was unknown. -/
def failure? : Ending → Option Failure
  | failed failure => some failure
  | _ => none

/-- The diagnostics of a tick that ended so. -/
def diagnostics : Ending → List Diagnostic
  | failed failure => [failure.diagnostic]
  | unhandled _ diagnostic => [diagnostic]
  | _ => []

/-- The last line of the trace. -/
def closing : Ending → String
  | failed failure =>
    "--- Evaluation failed on line " ++ toString failure.line ++ ": " ++
      failure.diagnostic.message ++ " ---"
  | exhausted => "--- No command executed (end of script) ---"
  | _ => "--- Execution complete (waiting for next tick) ---"

/-- The last record of the log: its level and its message. -/
def logged : Ending → LogLevel × String
  | acted action =>
    (.debug, "Tick executed " ++ action.command.text ++ " from line " ++
      toString action.line)
  | failed failure =>
    (.info, "Tick failed on line " ++ toString failure.line ++ ": " ++
      failure.diagnostic.message)
  | unhandled line _ =>
    (.debug, "Tick ended on line " ++ toString line ++ " without an action")
  | idle line =>
    (.debug, "Tick ended on line " ++ toString line ++ " without an action")
  | exhausted => (.debug, "Tick ended without an action")

end Ending

/-- A tick: the lines it wrote and how it ended. -/
structure Tick where
  trace : List String
  ending : Ending
deriving DecidableEq, Repr

namespace Tick

/-- The command that acted, with its circumstances. -/
def action? (tick : Tick) : Option Action := tick.ending.action?

/-- The name that was unknown, with its circumstances. -/
def failure? (tick : Tick) : Option Failure := tick.ending.failure?

/-- The diagnostics of a tick. -/
def diagnostics (tick : Tick) : List Diagnostic := tick.ending.diagnostics

/-- Whether a command acted. -/
def executed (tick : Tick) : Bool := tick.action?.isSome

/-- Whether a name was unknown. -/
def failed (tick : Tick) : Bool := tick.failure?.isSome

/-- The command that acted. -/
def command? (tick : Tick) : Option Command := tick.action?.map (·.command)

end Tick

end Autopilot
