import Autopilot.Grammar

/-!
# Operations on a cursor

Everything that can be asked of a cursor, as data: the steps of the cursor itself,
recovery, lists of tokens, and the parts of the grammar, each started wherever the
cursor stands.  A reader's steps are such operations and looks at its progress.
-/

namespace Autopilot

/-- What can be asked of a cursor. -/
inductive Cursor.Operation where
  | current
  | bump
  | isAt (kind : TokenKind)
  | isAtAny (kinds : List TokenKind)
  | eat (kind : TokenKind)
  | expect (kind : TokenKind) (remark : Remark)
  | report (diagnostic : Diagnostic)
  | unexpected (remark : Remark)
  | found
  | recover (recovery : Recovery)
  | list (ending element : TokenKind) (goOn : Bool)
  | skipSeparators
  | script
  | statement
  | conditional
  | fallback
  | command
  | condition
  | term
  | operand
deriving Repr

namespace Cursor.Operation

/-- What an operation answers. -/
inductive Answer where
  | done
  | flag (value : Bool)
  | text (value : String)
  | token (value : Option Token)
  | tokens (value : List Token)
  | diagnostic (value : Diagnostic)
  | refusal (value : Option Recovery.Refusal)
  | script (value : Script)
  | statement (value : Option Statement)
  | command (value : Option Command)
  | condition (value : Option Condition)
  | operand (value : Option Operand)
deriving Repr

/-- A list of tokens of one kind up to a token of another kind. -/
def tokenList (ending element : TokenKind) (goOn : Bool) : NodeList Token where
  isAtEnd := fun c => c.isAt ending
  element := fun c => c.eat element
  goOn := fun _ c => (goOn, c)

/-- The answer of an operation that always has one, and the cursor after it. -/
def answered {α : Type} (wrap : α → Answer) (result : α × Cursor) :
    Except Fault Answer × Cursor :=
  (.ok (wrap result.1), result.2)

/-- The answer to an operation, and the cursor after it. -/
def apply (c : Cursor) : Operation → Except Fault Answer × Cursor
  | current => (.ok (.token c.current), c)
  | bump => answered (fun token => .token (some token)) c.bump
  | isAt kind => (.ok (.flag (c.isAt kind)), c)
  | isAtAny kinds => (.ok (.flag (c.isAtAny kinds)), c)
  | eat kind => answered .token (c.eat kind)
  | expect kind remark => answered .token (c.expect kind remark)
  | report diagnostic => (.ok .done, c.report diagnostic)
  | unexpected remark => (.ok (.diagnostic (c.unexpected remark)), c)
  | found => (.ok (.text c.current.found), c)
  | recover recovery => answered .refusal (recovery.recover c)
  | list ending element goOn =>
    let result := (tokenList ending element goOn).read c
    (result.1.map .tokens, result.2)
  | skipSeparators => (.ok .done, Grammar.skipSeparators c)
  | script =>
    let result := Grammar.script c
    (result.1.map .script, result.2)
  | statement => answered .statement (Grammar.statement c)
  | conditional => answered .statement (Grammar.conditional c)
  | fallback => answered .statement (Grammar.fallback c)
  | command => answered .command (Grammar.command c)
  | condition => answered .condition (Grammar.condition c)
  | term => answered .condition (Grammar.term c)
  | operand => answered .operand (Grammar.operand c)

end Cursor.Operation

/-- A step of a reader: an operation on the cursor, or a look at its progress. -/
inductive Cursor.Step where
  | operation (operation : Cursor.Operation)
  | progressed
  | requireProgress
deriving Repr

/-- The answer to a step, the cursor and the mark of its progress after it. -/
def Cursor.Step.run (c : Cursor) (progress : Progress) :
    Cursor.Step → Except Fault Operation.Answer × Cursor × Progress
  | operation asked =>
    let (answer, c') := asked.apply c
    (answer, c', progress)
  | progressed =>
    let (moved, mark) := progress.check c
    (.ok (.flag moved), c, mark)
  | requireProgress =>
    let (moved, mark) := progress.check c
    (if moved then .ok .done else .error (.stalled c.current.describe), c, mark)

end Autopilot
