/-!
# Scripts

A script is a list of statements.  Each statement names a command and says when it is
to be tried: under a condition, as a fallback, or always.  Conditions are comparisons
and queries joined by `AND` and `OR`; arguments and the right sides of comparisons are
names or numbers.  A number is kept as it was written.
-/

namespace Autopilot

/-- The relations that a condition may ask for. -/
inductive Comparator where
  | less
  | lessEqual
  | greater
  | greaterEqual
  | equal
  | notEqual
deriving DecidableEq, Repr

/-- How two conditions are joined. -/
inductive Connective where
  | conj
  | disj
deriving DecidableEq, Repr

/-- A name or a number, the latter with its text. -/
inductive Operand where
  | name (name : String)
  | number (raw : String)
deriving DecidableEq, Repr

/-- A command: its name and its arguments in order. -/
structure Command where
  name : String
  arguments : List Operand := []
deriving DecidableEq, Repr

/-- What a statement may depend on.  A comparison has a variable on its left. -/
inductive Condition where
  | comparison (left : String) (comparator : Comparator) (right : Operand)
  | query (name : String)
  | logical (left : Condition) (connective : Connective) (right : Condition)
deriving DecidableEq, Repr, Inhabited

/-- When the command of a statement is tried. -/
inductive Trigger where
  /-- When a condition holds. -/
  | condition (condition : Condition)
  /-- When no statement before it ended the tick.  One whose condition holds ends it, even
  if its command does not act. -/
  | fallback
  /-- Whenever the statement is reached. -/
  | always
deriving DecidableEq, Repr

/-- The three forms of statements. -/
inductive StatementKind where
  | conditional
  | fallback
  | command
deriving DecidableEq, Repr

/-- A statement and the line on which it starts. -/
structure Statement where
  trigger : Trigger
  command : Command
  line : Int
deriving DecidableEq, Repr

/-- Statements in order; the order decides which of them acts. -/
structure Script where
  statements : List Statement
deriving DecidableEq, Repr

/-- The form of a statement with a trigger. -/
def Trigger.kind : Trigger → StatementKind
  | condition _ => .conditional
  | fallback => .fallback
  | always => .command

/-- The word for a form of statements. -/
def StatementKind.word : StatementKind → String
  | conditional => "conditional"
  | fallback => "fallback"
  | command => "command"

/-- The form of a statement. -/
def Statement.kind (statement : Statement) : StatementKind :=
  statement.trigger.kind

/-- The number of statements. -/
def Script.length (script : Script) : Nat :=
  script.statements.length

/-- Whether a condition is a pair of joined conditions. -/
def Condition.isLogical : Condition → Bool
  | logical .. => true
  | _ => false

/-- The sign of a relation. -/
def Comparator.sign : Comparator → String
  | less => "<"
  | lessEqual => "<="
  | greater => ">"
  | greaterEqual => ">="
  | equal => "=="
  | notEqual => "!="

/-- All relations. -/
def Comparator.all : List Comparator :=
  [less, lessEqual, greater, greaterEqual, equal, notEqual]

/-- The relation with a sign. -/
def Comparator.ofSign? (sign : String) : Option Comparator :=
  all.find? (·.sign = sign)

theorem Comparator.ofSign?_sign (comparator : Comparator) :
    ofSign? comparator.sign = some comparator := by
  cases comparator <;> decide

/-- The word that joins two conditions. -/
def Connective.word : Connective → String
  | conj => "AND"
  | disj => "OR"

/-- The value of two joined truth values. -/
def Connective.apply : Connective → Bool → Bool → Bool
  | conj, a, b => a && b
  | disj, a, b => a || b

/-- Whether the left value alone decides: a false one for `AND`, a true one for
`OR`. -/
def Connective.isDecidedBy : Connective → Bool → Bool
  | conj, a => !a
  | disj, a => a

/-- A decided connective has the value of its left side. -/
theorem Connective.apply_of_isDecidedBy {connective : Connective} {a : Bool}
    (h : connective.isDecidedBy a = true) (b : Bool) :
    connective.apply a b = a := by
  cases connective <;> cases a <;> simp_all [isDecidedBy, apply]

/-- A connective that is not decided has the value of its right side. -/
theorem Connective.apply_of_not_isDecidedBy {connective : Connective} {a : Bool}
    (h : connective.isDecidedBy a = false) (b : Bool) :
    connective.apply a b = b := by
  cases connective <;> cases a <;> simp_all [isDecidedBy, apply]

end Autopilot
