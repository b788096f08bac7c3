import Autopilot.Position
import Autopilot.Text.Lowercase

/-!
# Tokens

A script is read as a sequence of tokens: words, numbers, operators, punctuation and
line breaks, closed by an end token.  A word is a keyword or an identifier; letter
case does not matter for keywords.
-/

namespace Autopilot

/-- The kinds of tokens. -/
inductive TokenKind where
  | eof
  | newline
  | identifier
  | number
  | ifWord
  | thenWord
  | elseWord
  | andWord
  | orWord
  | lessThan
  | lessOrEqual
  | greaterThan
  | greaterOrEqual
  | equalTo
  | notEqualTo
  | leftParen
  | rightParen
  | comma
deriving DecidableEq, Repr

namespace TokenKind

/-- The name of a kind. -/
def name : TokenKind → String
  | eof => "EOF"
  | newline => "NEWLINE"
  | identifier => "IDENTIFIER"
  | number => "NUMBER"
  | ifWord => "IF"
  | thenWord => "THEN"
  | elseWord => "ELSE"
  | andWord => "AND"
  | orWord => "OR"
  | lessThan => "LESS_THAN"
  | lessOrEqual => "LESS_THAN_OR_EQUAL"
  | greaterThan => "GREATER_THAN"
  | greaterOrEqual => "GREATER_THAN_OR_EQUAL"
  | equalTo => "EQUAL_EQUAL"
  | notEqualTo => "NOT_EQUAL"
  | leftParen => "LPAREN"
  | rightParen => "RPAREN"
  | comma => "COMMA"

/-- The number of a kind: tens for the group, units within it. -/
def code : TokenKind → Nat
  | eof => 1
  | newline => 2
  | identifier => 10
  | number => 11
  | ifWord => 20
  | thenWord => 21
  | elseWord => 22
  | andWord => 23
  | orWord => 24
  | lessThan => 30
  | lessOrEqual => 31
  | greaterThan => 32
  | greaterOrEqual => 33
  | equalTo => 34
  | notEqualTo => 35
  | leftParen => 40
  | rightParen => 41
  | comma => 42

/-- All kinds, by their numbers. -/
def all : List TokenKind :=
  [eof, newline, identifier, number, ifWord, thenWord, elseWord, andWord,
    orWord, lessThan, lessOrEqual, greaterThan, greaterOrEqual, equalTo,
    notEqualTo, leftParen, rightParen, comma]

/-- The kind with a name. -/
def ofName? (name : String) : Option TokenKind :=
  all.find? (·.name = name)

theorem mem_all (kind : TokenKind) : kind ∈ all := by
  cases kind <;> decide

theorem ofName?_name (kind : TokenKind) : ofName? kind.name = some kind := by
  cases kind <;> decide

end TokenKind

/-- The keywords in lower case, with their kinds. -/
def keywords : List (String × TokenKind) :=
  [("if", .ifWord), ("then", .thenWord), ("else", .elseWord), ("and", .andWord),
    ("or", .orWord)]

/-- The kind of a word that is a keyword in some letter case. -/
def keywordKind? (word : String) : Option TokenKind :=
  keywords.lookup (Text.lowercase word)

/-- A piece of a script with its kind and the place where it starts. -/
structure Token where
  kind : TokenKind
  text : String
  position : Position
deriving DecidableEq, Repr

namespace Token

/-- The token that closes a script. -/
def ending (position : Position) : Token :=
  ⟨.eof, "", position⟩

/-- What a message says was found at a token. -/
def found (token : Token) : String :=
  match token.kind with
  | .eof => "end of input"
  | .newline => "end of line"
  | kind => kind.name ++ " '" ++ token.text ++ "'"

/-- The visible form of a line break or a tab; any other character is itself. -/
def visible (c : Char) : List Char :=
  if c = '\n' then ['\\', 'n']
  else if c = '\r' then ['\\', 'r']
  else if c = '\t' then ['\\', 't']
  else [c]

/-- A token with its kind, its text and its place. -/
def describe (token : Token) : String :=
  token.kind.name ++ "(" ++
    Text.quoted (String.ofList (token.text.toList.flatMap visible)) ++ ") at " ++
    token.position.text

end Token

end Autopilot
