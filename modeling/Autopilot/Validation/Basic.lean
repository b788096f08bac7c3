import Autopilot.Diagnostic.Catalogue
import Autopilot.Script.Walk
import Autopilot.Validation.Rules

/-!
# Checking a script

A script that has been read is checked against rules.  Limits that are exceeded are
errors; names that are not known, and a fallback before any other statement, are only
warnings, because a world may know more names than the rules list.

The remarks on the script as a whole come first, then those on its conditions in order,
then those on its commands.
-/

namespace Autopilot

namespace Rules

/-- A remark on the start of a line. -/
def remarkOn (line : Int) (remark : Remark) (message hint : Option String) :
    Except Fault Diagnostic := do
  return remark.placed (← Position.lineStart line) message hint

/-- The remark on the first statement beyond the limit. -/
def checkLength (rules : Rules) (script : Script) : Except Fault (List Diagnostic) :=
  match rules.maxStatements with
  | Option.none => .ok []
  | some limit =>
    if limit < script.length then
      match script.statements[limit]? with
      | Option.none => .error .indexOutOfRange
      | some extra => do
        let message := "Script has " ++ toString script.length ++
          " statements; at most " ++ toString limit ++ " are allowed."
        return [← remarkOn extra.line .tooManyStatements (some message) Option.none]
    else .ok []

/-- The remark on a fallback that comes first. -/
def checkFallback (rules : Rules) (script : Script) : Except Fault (List Diagnostic) :=
  match script.statements with
  | ⟨.fallback, _, line⟩ :: _ =>
    if rules.warnOrphanFallback then do
      return [← remarkOn line .orphanFallback Option.none Option.none]
    else .ok []
  | _ => .ok []

/-- The remark on a condition with more terms than are allowed. -/
def checkTerms (rules : Rules) (line : Int) (condition : Condition) :
    Except Fault (List Diagnostic) :=
  let count := condition.terms.length
  match rules.maxConditionTerms with
  | Option.none => .ok []
  | some limit =>
    if limit < count then do
      let message := "Condition combines " ++ toString count ++ " terms; at most " ++
        toString limit ++ " are allowed."
      return [← remarkOn line .conditionTooDeep (some message) Option.none]
    else .ok []

/-- The remark on a name that is not known, with the closest known name as a hint. -/
def unknownName (rules : Rules) (remark : Remark) (noun : String) (known : List String)
    (line : Int) (name : String) : Except Fault Diagnostic := do
  let suggestion ← Text.suggest name known rules.suggestionCutoff
  let hint := suggestion.map fun closest => "Did you mean `" ++ closest ++ "`?"
  remarkOn line remark (some ("Unknown " ++ noun ++ " `" ++ name ++ "`.")) hint

/-- The remarks on those of some names that are not known in any letter case; none if
no names are known at all. -/
def checkNames (rules : Rules) (remark : Remark) (noun : String) (known : List String)
    (line : Int) (names : List String) : Except Fault (List Diagnostic) :=
  if known.isEmpty then .ok []
  else
    let lowered := known.map Text.lowercase
    (names.filter fun name => !lowered.contains (Text.lowercase name)).mapM
      (rules.unknownName remark noun lowered line)

/-- The remarks on a condition: on its size, its queries and its variables. -/
def checkCondition (rules : Rules) (line : Int) (condition : Condition) :
    Except Fault (List Diagnostic) := do
  let terms ← rules.checkTerms line condition
  let ofQueries ←
    rules.checkNames .unlistedQuery "query" rules.knownQueries line condition.queryNames
  let ofVariables ←
    rules.checkNames .unlistedVariable "variable" rules.knownVariables line
      condition.variableNames
  return terms ++ ofQueries ++ ofVariables

/-- The remarks on the name of a command. -/
def checkCommand (rules : Rules) (line : Int) (command : Command) :
    Except Fault (List Diagnostic) :=
  rules.checkNames .unlistedCommand "command" rules.knownCommands line [command.name]

/-- The remarks on a script. -/
def check (rules : Rules) (script : Script) : Except Fault (List Diagnostic) := do
  let length ← rules.checkLength script
  let fallback ← rules.checkFallback script
  let conditions ← script.conditions.mapM fun (line, condition) =>
    rules.checkCondition line condition
  let commands ← script.commands.mapM fun (line, command) =>
    rules.checkCommand line command
  return length ++ fallback ++ conditions.flatten ++ commands.flatten

end Rules

end Autopilot
