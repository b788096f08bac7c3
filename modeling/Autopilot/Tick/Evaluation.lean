import Autopilot.Command.BuiltIn
import Autopilot.Diagnostic.Catalogue
import Autopilot.Number.Numeral
import Autopilot.Tick.Comparison
import Autopilot.Tick.Result

/-!
# Evaluating a script

In a tick the statements of a script are tried in order until one of them ends the
tick.  A statement whose condition is false, or whose command does not act, is passed,
except that a condition that holds ends the tick in any case.  A name that the world
does not know ends the tick as a failure, a command without a handler ends it with a
warning.
-/

namespace Autopilot

variable {σ : Type} [World σ]

/-- The number of a literal. -/
def Operand.literal (raw : String) : Except Fault Number :=
  match Binary64.ofText? raw with
  | some x => .ok (.real x)
  | none => .error (.malformedNumber raw)

/-- The number of an operand: that of a literal, or that of a variable. -/
def Operand.evaluate : Operand → Run σ Number
  | name variableName => Run.access (World.number variableName)
  | number raw => Run.lift (literal raw)

namespace Condition

/-- The line of the trace for a comparison. -/
def comparisonLine (left : String) (comparator : Comparator) (right : Operand)
    (leftValue rightValue : Number) (result : Bool) : Except Fault String := do
  return "    Comparison: " ++ left ++ "(" ++ (← leftValue.briefText) ++ ") " ++
    comparator.sign ++ " " ++ right.text ++ "(" ++ (← rightValue.briefText) ++ ") = " ++
    truthWord result

/-- The line of the trace for a connective that its left side decides. -/
def shortCircuitLine (connective : Connective) : String :=
  match connective with
  | .conj => "    Logical: AND short-circuit (left is false)"
  | .disj => "    Logical: OR short-circuit (left is true)"

/-- The line of the trace for a connective whose right side was evaluated. -/
def logicalLine (connective : Connective) (left right : Bool) : String :=
  "    Logical: " ++ truthWord left ++ " " ++ connective.word ++ " " ++
    truthWord right ++ " = " ++ truthWord right

/-- The truth value of a condition.  The right side of a connective is not looked at if
the left side decides. -/
def evaluate (tolerance : Tolerance) : Condition → Run σ Bool
  | comparison left comparator right => do
    let leftValue ← Run.access (World.number left)
    let rightValue ← right.evaluate
    let result ←
      Run.lift (comparator.compare leftValue rightValue tolerance.epsilon)
    let line ←
      Run.lift (comparisonLine left comparator right leftValue rightValue result)
    Run.write line
    return result
  | query name => do
    let result ← Run.access (World.flag name)
    Run.write ("    Query: " ++ name ++ " = " ++ truthWord result)
    return result
  | logical left connective right => do
    let leftValue ← left.evaluate tolerance
    if connective.isDecidedBy leftValue then
      Run.write (shortCircuitLine connective)
      return leftValue
    else
      let rightValue ← right.evaluate tolerance
      Run.write (logicalLine connective leftValue rightValue)
      return rightValue

end Condition

namespace Statement

/-- Ends a tick at a command without a handler. -/
def unhandled (statement : Statement) : Run σ Ending := do
  let name := statement.command.name
  Run.write ("    [Warning] Unknown command: " ++ name)
  Run.record .warning
    ("Unknown command " ++ Text.quoted name ++ " on line " ++ toString statement.line ++
      "; no action this tick")
  let position ← Run.lift (Position.lineStart statement.line)
  return .unhandled statement.line
    (Remark.missingCommand.placed position (some ("Unknown command `" ++ name ++ "`."))
      none)

/-- Carries out the command of a statement; nothing is given if it does not act. -/
def carryOut (registry : Registry σ) (statement : Statement) :
    Run σ (Option Ending) := do
  Run.write ("  -> Executing command: " ++ statement.command.text)
  match registry.lookup statement.command.name with
  | none => return some (← statement.unhandled)
  | some handler =>
    let outcome ← Run.access (handler statement.command)
    Run.writeAll (outcome.messages.map ("    " ++ ·))
    if outcome.performed then
      return some (.acted
        ⟨statement.command, statement.line, statement.kind, outcome.messages⟩)
    else
      Run.write "    Command did not act"
      return none

/-- Tries a statement; nothing is given if it is passed. -/
def attempt (registry : Registry σ) (tolerance : Tolerance) (statement : Statement) :
    Run σ (Option Ending) :=
  match statement.trigger with
  | .condition condition => do
    Run.write ("Evaluating: IF " ++ condition.text)
    if ← condition.evaluate tolerance then
      Run.write "  Condition TRUE"
      let ending ← statement.carryOut registry
      return some (ending.getD (.idle statement.line))
    else
      Run.write "  Condition FALSE"
      return none
  | .fallback => do
    Run.write ("Executing: ELSE " ++ statement.command.text)
    statement.carryOut registry
  | .always => do
    Run.write ("Executing: " ++ statement.command.text)
    statement.carryOut registry

/-- The remark on a name that the world does not know. -/
def missing : NameKind → Remark
  | .query => .missingQuery
  | .variable => .missingVariable

/-- Ends a tick at a name that the world does not know. -/
def fail (statement : Statement) (kind : NameKind) (name : String) :
    Run σ (Option Ending) := do
  let position ← Run.lift (Position.lineStart statement.line)
  let message := "Unknown " ++ kind.word ++ " `" ++ name ++ "`."
  return some (.failed
    ⟨kind, name, statement.line, (missing kind).placed position (some message) none⟩)

/-- How a statement ends the tick; nothing is given if it is passed. -/
def run (registry : Registry σ) (tolerance : Tolerance) (statement : Statement) :
    Run σ (Option Ending) :=
  (statement.attempt registry tolerance).rescue statement.fail

end Statement

namespace Script

/-- How a list of statements ends the tick. -/
def runStatements (registry : Registry σ) (tolerance : Tolerance) :
    List Statement → Run σ Ending
  | [] => return .exhausted
  | statement :: rest => do
    match ← statement.run registry tolerance with
    | some ending => return ending
    | none => runStatements registry tolerance rest

/-- The first line of the trace. -/
def header (script : Script) (world : σ) : Except Fault String := do
  return "=== Executing script (" ++ toString script.length ++ " statements) with " ++
    (← World.describe world) ++ " ==="

/-- The whole tick: the first line, the statements and the last line. -/
def run (registry : Registry σ) (tolerance : Tolerance) (script : Script) :
    Run σ Ending := do
  let line ← Run.access fun world => (script.header world, world)
  Run.write line
  let ending ← runStatements registry tolerance script.statements
  Run.write ending.closing
  Run.record ending.logged.1 ending.logged.2
  return ending

/-- What a tick of a script leaves: the tick or a fault, the world, and the log. -/
structure TickOutcome (σ : Type) where
  tick : Except Fault Tick
  world : σ
  log : List LogRecord

/-- One tick of a script in a world. -/
def tick (registry : Registry σ) (tolerance : Tolerance) (script : Script) (world : σ) :
    TickOutcome σ :=
  let trail := script.run registry tolerance world
  ⟨trail.result.map (⟨trail.trace, ·⟩), trail.world, trail.log⟩

end Script

end Autopilot
