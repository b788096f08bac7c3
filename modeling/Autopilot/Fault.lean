import Autopilot.Text.Quoted

/-!
# Faults

What can go wrong when a part of the library is used on a value that it does not
accept.  A mistake in a script is not a fault: it is reported as a diagnostic and
the script is used as far as it was understood.

A fault is a cause; `Fault.message` is its wording.
-/

namespace Autopilot

/-- The two kinds of names that a condition looks up in a world. -/
inductive NameKind where
  | query
  | variable
deriving DecidableEq, Repr

/-- The word for a kind of name. -/
def NameKind.word : NameKind → String
  | .query => "query"
  | .variable => "variable"

/-- The causes for which an operation gives no result. -/
inductive Fault where
  /-- A world was asked about a name that it does not provide. -/
  | unknownName (kind : NameKind) (name : String)
  /-- A whole number lies outside the range of the reals it is mixed with. -/
  | numberOverflow
  /-- A line or a column below one. -/
  | invalidPosition
  /-- A number leaf whose text is not a numeral. -/
  | malformedNumber (raw : String)
  /-- A token list that does not end with the end token. -/
  | unterminatedTokens
  /-- A repetition that read nothing in a round, at the token shown. -/
  | stalled (token : String)
  /-- A negative limit on the number of statements. -/
  | negativeStatementLimit
  /-- A limit below one on the terms of a condition. -/
  | emptyConditionLimit
  /-- A similarity cutoff outside the unit interval. -/
  | cutoffOutOfRange
  /-- A similarity cutoff outside the unit interval, shown as given to a search. -/
  | searchCutoff (shown : String)
  /-- A place behind the end of a list was asked for. -/
  | indexOutOfRange
  /-- A tolerance for equality that is zero or less. -/
  | epsilonNotPositive
  /-- A command name that no script can spell. -/
  | invalidCommandName (name : String)
  /-- A command name that is a keyword. -/
  | reservedCommandName (name : String)
  /-- Something that cannot handle commands was registered for a name. -/
  | handlerNotCallable (name : String)
  /-- A source that is already read was given together with options. -/
  | sourceWithOptions
deriving DecidableEq, Repr

namespace Fault

/-- The wording of a fault. -/
def message : Fault → String
  | unknownName kind name => "Unknown " ++ kind.word ++ ": " ++ name
  | numberOverflow => "int too large to convert to float"
  | invalidPosition => "TextPosition line and column are 1-based"
  | malformedNumber raw => "could not convert string to float: " ++ Text.quoted raw
  | unterminatedTokens => "Token stream must end with an EOF token"
  | stalled token => "Parser stopped making progress at " ++ token
  | negativeStatementLimit => "max_statements must be non-negative"
  | emptyConditionLimit => "max_condition_terms must be at least 1"
  | cutoffOutOfRange => "suggestion_cutoff must be between 0 and 1"
  | searchCutoff shown => "cutoff must be in [0.0, 1.0]: " ++ shown
  | indexOutOfRange => "tuple index out of range"
  | epsilonNotPositive => "equality_epsilon must be positive"
  | invalidCommandName name =>
    "Command name `" ++ name ++ "` is not a valid DroneScript identifier."
  | reservedCommandName name => "Command name `" ++ name ++ "` is a reserved keyword."
  | handlerNotCallable name => "Handler for `" ++ name ++ "` is not callable."
  | sourceWithOptions => "Pass either parse or options, not both"

end Fault

end Autopilot
