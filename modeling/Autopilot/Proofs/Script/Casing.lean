import Autopilot.Script.Text
import Mathlib.Data.List.Forall2

/-!
# Scripts that differ in letter case

Two scripts differ in letter case if they are the same but for the names of commands,
queries and variables, each of which is the same as its counterpart in lower case.  The
arguments of commands are no such names.
-/

namespace Autopilot

/-- Two names are the same in lower case. -/
def SameInLowercase (name name' : String) : Prop :=
  Text.lowercase name = Text.lowercase name'

instance (name name' : String) : Decidable (SameInLowercase name name') :=
  inferInstanceAs (Decidable (_ = _))

/-- Two right sides of comparisons differ in the letter case of a name. -/
inductive Operand.SameBesideCase : Operand → Operand → Prop
  | name {word word' : String} (hword : SameInLowercase word word') :
      SameBesideCase (.name word) (.name word')
  | number (raw : String) : SameBesideCase (.number raw) (.number raw)

/-- Two conditions differ in the letter case of their names. -/
inductive Condition.SameBesideCase : Condition → Condition → Prop
  | comparison {left left' : String} {right right' : Operand}
      (hleft : SameInLowercase left left') (comparator : Comparator)
      (hright : right.SameBesideCase right') :
      SameBesideCase (.comparison left comparator right)
        (.comparison left' comparator right')
  | query {name name' : String} (hname : SameInLowercase name name') :
      SameBesideCase (.query name) (.query name')
  | logical {left left' right right' : Condition} (hleft : SameBesideCase left left')
      (connective : Connective) (hright : SameBesideCase right right') :
      SameBesideCase (.logical left connective right) (.logical left' connective right')

/-- Two commands differ in the letter case of their names. -/
structure Command.SameBesideCase (command command' : Command) : Prop where
  name : SameInLowercase command.name command'.name
  arguments : command.arguments = command'.arguments

/-- Two triggers differ in the letter case of names in their conditions. -/
inductive Trigger.SameBesideCase : Trigger → Trigger → Prop
  | condition {tested tested' : Condition} (htested : tested.SameBesideCase tested') :
      SameBesideCase (.condition tested) (.condition tested')
  | fallback : SameBesideCase .fallback .fallback
  | always : SameBesideCase .always .always

/-- Two statements on one line of a text differ in the letter case of their names. -/
structure Statement.SameBesideCase (statement statement' : Statement) : Prop where
  trigger : statement.trigger.SameBesideCase statement'.trigger
  command : statement.command.SameBesideCase statement'.command
  line : statement.line = statement'.line
  line_pos : 1 ≤ statement.line

/-- Two scripts differ in the letter case of their names. -/
def Script.SameBesideCase (script script' : Script) : Prop :=
  List.Forall₂ Statement.SameBesideCase script.statements script'.statements

theorem Command.SameBesideCase.key {command command' : Command}
    (h : command.SameBesideCase command') : command.key = command'.key :=
  h.name

theorem Trigger.SameBesideCase.kind {trigger trigger' : Trigger}
    (h : trigger.SameBesideCase trigger') : trigger.kind = trigger'.kind := by
  cases h with
  | condition htested => rfl
  | fallback => rfl
  | always => rfl

theorem Statement.SameBesideCase.kind {statement statement' : Statement}
    (h : statement.SameBesideCase statement') : statement.kind = statement'.kind :=
  h.trigger.kind

theorem Statement.SameBesideCase.line_pos' {statement statement' : Statement}
    (h : statement.SameBesideCase statement') : 1 ≤ statement'.line := by
  rw [← h.line]
  exact h.line_pos

end Autopilot
