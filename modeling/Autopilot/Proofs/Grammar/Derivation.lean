import Autopilot.Grammar

/-!
# Derivations

A derivation of the grammar is a tree whose leaves are tokens.  A leaf fixes the kind
of its token and nothing else, so that whether a list of tokens has a derivation
depends only on its kinds.  Each form of tree follows one rule of the grammar:

    script    := NEWLINE* (statement NEWLINE*)* EOF
    statement := IF condition THEN command | ELSE command | command
    condition := term ((AND | OR) term)*
    term      := IDENTIFIER (comparator operand)?
    command   := IDENTIFIER ('(' (operand (',' operand)*)? ')')?
    operand   := IDENTIFIER | NUMBER

A tree has the list of its tokens and the part of a script that it stands for.
-/

namespace Autopilot

/-- A token of a kind. -/
@[ext]
structure Terminal (kind : TokenKind) where
  token : Token
  kind_eq : token.kind = kind

/-- A token that stands for a relation. -/
structure ComparatorSign where
  token : Token
  comparator : Comparator
  kind_eq : Comparator.ofKind? token.kind = some comparator

/-- A token that stands for a connective. -/
structure ConnectiveWord where
  token : Token
  connective : Connective
  kind_eq : Connective.ofKind? token.kind = some connective

inductive OperandTree where
  | name (word : Terminal .identifier)
  | number (digits : Terminal .number)

inductive TermTree where
  | query (name : Terminal .identifier)
  | comparison (left : Terminal .identifier) (sign : ComparatorSign)
      (right : OperandTree)

/-- A term, and further terms, each after a connective. -/
structure ConditionTree where
  first : TermTree
  others : List (ConnectiveWord × TermTree)

/-- An operand, and further operands, each after a comma. -/
structure OperandsTree where
  first : OperandTree
  others : List (Terminal .comma × OperandTree)

/-- The arguments of a command in their parentheses. -/
structure ArgumentsTree where
  opening : Terminal .leftParen
  operands : Option OperandsTree
  closing : Terminal .rightParen

structure CommandTree where
  name : Terminal .identifier
  arguments : Option ArgumentsTree

inductive StatementTree where
  | conditional (opening : Terminal .ifWord) (condition : ConditionTree)
      (middle : Terminal .thenWord) (command : CommandTree)
  | fallback (opening : Terminal .elseWord) (command : CommandTree)
  | bare (command : CommandTree)

structure ScriptTree where
  separators : List (Terminal .newline)
  statements : List (StatementTree × List (Terminal .newline))
  ending : Terminal .eof

/-! ## The tokens of a derivation -/

def OperandTree.token : OperandTree → Token
  | name word => word.token
  | number digits => digits.token

def TermTree.tokens : TermTree → List Token
  | query name => [name.token]
  | comparison left sign right => [left.token, sign.token, right.token]

/-- The tokens of the terms that follow a condition. -/
def joinedTokens (others : List (ConnectiveWord × TermTree)) : List Token :=
  others.flatMap fun (word, term) => word.token :: term.tokens

def ConditionTree.tokens (condition : ConditionTree) : List Token :=
  condition.first.tokens ++ joinedTokens condition.others

def OperandsTree.tokens (operands : OperandsTree) : List Token :=
  operands.first.token ::
    operands.others.flatMap fun (comma, operand) => [comma.token, operand.token]

def ArgumentsTree.tokens (arguments : ArgumentsTree) : List Token :=
  arguments.opening.token ::
    (arguments.operands.elim [] OperandsTree.tokens ++ [arguments.closing.token])

def CommandTree.tokens (command : CommandTree) : List Token :=
  command.name.token :: command.arguments.elim [] ArgumentsTree.tokens

def StatementTree.tokens : StatementTree → List Token
  | conditional opening condition middle command =>
    opening.token :: (condition.tokens ++ middle.token :: command.tokens)
  | fallback opening command => opening.token :: command.tokens
  | bare command => command.tokens

/-- The tokens of statements, each with the line breaks after it. -/
def statementTokens (statements : List (StatementTree × List (Terminal .newline))) :
    List Token :=
  statements.flatMap fun (statement, separators) =>
    statement.tokens ++ separators.map (·.token)

theorem statementTokens_cons (statement : StatementTree)
    (separators : List (Terminal .newline))
    (statements : List (StatementTree × List (Terminal .newline))) :
    statementTokens ((statement, separators) :: statements) =
      statement.tokens ++ separators.map (·.token) ++ statementTokens statements := rfl

def ScriptTree.tokens (script : ScriptTree) : List Token :=
  script.separators.map (·.token) ++ statementTokens script.statements ++
    [script.ending.token]

/-! ## What a derivation stands for -/

def OperandTree.operand : OperandTree → Operand
  | name word => .name word.token.text
  | number digits => .number digits.token.text

def TermTree.condition : TermTree → Condition
  | query name => .query name.token.text
  | comparison left sign right =>
    .comparison left.token.text sign.comparator right.operand

/-- A condition and the terms that follow it, grouped to the left. -/
def joinedCondition (left : Condition) (others : List (ConnectiveWord × TermTree)) :
    Condition :=
  others.foldl (fun left (word, term) =>
    .logical left word.connective term.condition) left

def ConditionTree.condition (condition : ConditionTree) : Condition :=
  joinedCondition condition.first.condition condition.others

def OperandsTree.operands (operands : OperandsTree) : List Operand :=
  operands.first.operand :: operands.others.map fun (_, operand) => operand.operand

def ArgumentsTree.operandList (arguments : ArgumentsTree) : List Operand :=
  arguments.operands.elim [] OperandsTree.operands

def CommandTree.command (command : CommandTree) : Command where
  name := command.name.token.text
  arguments := command.arguments.elim [] ArgumentsTree.operandList

def StatementTree.trigger : StatementTree → Trigger
  | conditional _ condition _ _ => .condition condition.condition
  | fallback _ _ => .fallback
  | bare _ => .always

def StatementTree.commandTree : StatementTree → CommandTree
  | conditional _ _ _ command => command
  | fallback _ command => command
  | bare command => command

/-- The first token of a statement; its line is the line of the statement. -/
def StatementTree.firstToken : StatementTree → Token
  | conditional opening _ _ _ => opening.token
  | fallback opening _ => opening.token
  | bare command => command.name.token

def StatementTree.statement (statement : StatementTree) : Statement where
  trigger := statement.trigger
  command := statement.commandTree.command
  line := statement.firstToken.position.line

def ScriptTree.script (script : ScriptTree) : Script where
  statements := script.statements.map (·.1.statement)

end Autopilot
