import Autopilot.Diagnostic.Basic

/-!
# The catalogue of diagnostics

Every remark that the library makes is an entry of this catalogue at a place in the
script, with the message or the hint of the entry or with more telling ones.
-/

namespace Autopilot

/-- A kind of remark. -/
structure Remark where
  code : String
  message : String
  hint : Option String := none
  severity : Severity := .error
  category : Option String := none
deriving DecidableEq, Repr

namespace Remark

/-- The remark at a place, with a message and a hint of its own where they are given. -/
def placed (r : Remark) (position : Position) (message hint : Option String) :
    Diagnostic where
  code := r.code
  message := message.getD r.message
  position := position
  severity := r.severity
  hint := hint <|> r.hint
  category := r.category

/-- An error of the reading stages or of the checks. -/
def problem (category code message : String) (hint : Option String) : Remark :=
  ⟨code, message, hint, .error, some category⟩

/-- A warning of the checks or of a tick. -/
def caution (category code message : String) (hint : Option String) : Remark :=
  ⟨code, message, hint, .warning, some category⟩

def unexpectedCharacter : Remark :=
  problem "lexer" "LEXER_UNEXPECTED_CHARACTER" "Unexpected character." none

def incompleteOperator : Remark :=
  problem "lexer" "LEXER_INCOMPLETE_OPERATOR" "Incomplete comparison operator."
    (some "Comparison operators are `<`, `<=`, `>`, `>=`, `==` and `!=`.")

def expectedStatement : Remark :=
  problem "parser" "PARSER_EXPECTED_STATEMENT"
    "Expected statement (IF, ELSE, or command)" none

def expectedThen : Remark :=
  problem "parser" "PARSER_EXPECTED_THEN" "Expected THEN after condition"
    (some "Conditional statements have the form `IF <condition> THEN <command>`.")

def expectedCondition : Remark :=
  problem "parser" "PARSER_EXPECTED_CONDITION" "Expected identifier in condition" none

def expectedOperand : Remark :=
  problem "parser" "PARSER_EXPECTED_OPERAND"
    "Expected identifier or number after comparison operator" none

def expectedCommand : Remark :=
  problem "parser" "PARSER_EXPECTED_COMMAND" "Expected command name" none

def expectedArgument : Remark :=
  problem "parser" "PARSER_EXPECTED_ARGUMENT" "Expected argument (identifier or number)"
    (some "Arguments cannot be nested commands or expressions.")

def unterminatedArguments : Remark :=
  problem "parser" "PARSER_UNTERMINATED_ARGUMENTS"
    "Expected ')' after command arguments" none

def tooManyStatements : Remark :=
  problem "validation" "VALIDATION_TOO_MANY_STATEMENTS"
    "Script has too many statements." none

def conditionTooDeep : Remark :=
  problem "validation" "VALIDATION_CONDITION_TOO_DEEP"
    "Condition combines too many terms."
    (some "Split the condition across several IF statements.")

def unlistedCommand : Remark :=
  caution "validation" "VALIDATION_UNKNOWN_COMMAND" "Unknown command." none

def unlistedQuery : Remark :=
  caution "validation" "VALIDATION_UNKNOWN_QUERY" "Unknown query." none

def unlistedVariable : Remark :=
  caution "validation" "VALIDATION_UNKNOWN_VARIABLE" "Unknown variable." none

def orphanFallback : Remark :=
  caution "validation" "VALIDATION_ORPHAN_FALLBACK"
    "ELSE is the first statement and always runs."
    (some "Place ELSE after the IF statements it should back up.")

def missingVariable : Remark :=
  problem "evaluator" "EVAL_UNKNOWN_VARIABLE" "Unknown variable."
    (some "The host world state does not provide this variable.")

def missingQuery : Remark :=
  problem "evaluator" "EVAL_UNKNOWN_QUERY" "Unknown query."
    (some "The host world state does not provide this query.")

def missingCommand : Remark :=
  caution "evaluator" "EVAL_UNKNOWN_COMMAND" "Unknown command."
    (some "Register a handler for it in the command registry.")

/-- All entries of the catalogue. -/
def catalogue : List Remark :=
  [unexpectedCharacter, incompleteOperator, expectedStatement, expectedThen,
    expectedCondition, expectedOperand, expectedCommand, expectedArgument,
    unterminatedArguments, tooManyStatements, conditionTooDeep, unlistedCommand,
    unlistedQuery, unlistedVariable, orphanFallback, missingVariable, missingQuery,
    missingCommand]

/-- The entry with a code. -/
def ofCode? (code : String) : Option Remark :=
  catalogue.find? (·.code = code)

/-- No two entries share a code. -/
theorem catalogue_codes_nodup : (catalogue.map (·.code)).Nodup := by
  decide

end Remark

end Autopilot
