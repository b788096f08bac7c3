import Autopilot.Script.Text

/-!
# Walking over scripts

The terms of a condition are its comparisons and queries from left to right.  The
names that a condition may look up are those of its terms.
-/

namespace Autopilot

namespace Condition

/-- The comparisons and queries of a condition from left to right. -/
def terms : Condition → List Condition
  | logical left _ right => left.terms ++ right.terms
  | term => [term]

/-- The names of the queries of a condition, in order. -/
def queryNames (condition : Condition) : List String :=
  condition.terms.flatMap fun
    | query name => [name]
    | _ => []

/-- The names of the variables of a condition, in order: of each comparison first the
left one, then the right one if it is a name. -/
def variableNames (condition : Condition) : List String :=
  condition.terms.flatMap fun
    | comparison left _ (.name right) => [left, right]
    | comparison left _ (.number _) => [left]
    | _ => []

theorem terms_ne_nil (condition : Condition) : condition.terms ≠ [] := by
  induction condition with
  | comparison => simp [terms]
  | query => simp [terms]
  | logical left connective right ihl ihr => simp [terms, ihl]

end Condition

/-- The conditions of a script with their lines, in order. -/
def Script.conditions (script : Script) : List (Int × Condition) :=
  script.statements.filterMap fun statement =>
    match statement.trigger with
    | .condition condition => some (statement.line, condition)
    | _ => none

/-- The commands of a script with their lines, in order. -/
def Script.commands (script : Script) : List (Int × Command) :=
  script.statements.map fun statement => (statement.line, statement.command)

end Autopilot
