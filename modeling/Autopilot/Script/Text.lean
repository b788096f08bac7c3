import Autopilot.Script.Basic
import Autopilot.Text.Lowercase

/-!
# The text of a script

Every part of a script has a text.  The text of a condition that was read from a
script reads back as the same condition.  A joined condition on the right of another
one cannot be read from a script; its text has parentheses and is only for display.
-/

namespace Autopilot

/-- An operand as it is written. -/
def Operand.text : Operand → String
  | name word => word
  | number raw => raw

namespace Command

/-- The arguments of a command between commas. -/
def argumentsText (arguments : List Operand) : String :=
  String.intercalate ", " (arguments.map Operand.text)

/-- A command as it is written; without arguments there are no parentheses. -/
def text (command : Command) : String :=
  match command.arguments with
  | [] => command.name
  | arguments => command.name ++ "(" ++ argumentsText arguments ++ ")"

/-- The name of a command in lower case, by which its handler is found. -/
def key (command : Command) : String :=
  Text.lowercase command.name

end Command

/-- A condition as it is written. -/
def Condition.text : Condition → String
  | comparison left comparator right =>
    left ++ " " ++ comparator.sign ++ " " ++ right.text
  | query name => name
  | logical left connective right =>
    left.text ++ " " ++ connective.word ++ " " ++
      if right.isLogical then "(" ++ right.text ++ ")" else right.text

/-- A statement as it is written. -/
def Statement.text (statement : Statement) : String :=
  match statement.trigger with
  | .condition condition =>
    "IF " ++ condition.text ++ " THEN " ++ statement.command.text
  | .fallback => "ELSE " ++ statement.command.text
  | .always => statement.command.text

/-- A script as it is written, one statement to a line. -/
def Script.text (script : Script) : String :=
  String.join (script.statements.map fun statement => statement.text ++ "\n")

end Autopilot
