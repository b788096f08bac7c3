import Autopilot.Cursor.NodeList
import Autopilot.Cursor.Recovery
import Autopilot.Script.Basic

/-!
# The grammar of scripts

Each part of a script is read at a cursor.  A part that cannot be read gives nothing
and leaves a diagnostic.  Only the list of statements takes up reading again after a
mistake; it drops tokens up to the next line or the next `IF` or `ELSE`.

    script    := NEWLINE* (statement NEWLINE*)* EOF
    statement := IF condition THEN command | ELSE command | command
    condition := term ((AND | OR) term)*
    term      := IDENTIFIER (comparator operand)?
    command   := IDENTIFIER ('(' (operand (',' operand)*)? ')')?
    operand   := IDENTIFIER | NUMBER

`AND` and `OR` bind equally and group to the left.
-/

namespace Autopilot

/-- The relation that a token stands for. -/
def Comparator.ofKind? : TokenKind → Option Comparator
  | .lessThan => some less
  | .lessOrEqual => some lessEqual
  | .greaterThan => some greater
  | .greaterOrEqual => some greaterEqual
  | .equalTo => some equal
  | .notEqualTo => some notEqual
  | _ => none

/-- The connective that a token stands for. -/
def Connective.ofKind? : TokenKind → Option Connective
  | .andWord => some conj
  | .orWord => some disj
  | _ => none

namespace Grammar

/-- Reads a name or a number.  No remark is made here: what was expected depends on
where the operand stands. -/
def operand (c : Cursor) : Option Operand × Cursor :=
  if c.isAt .identifier then (some (.name c.current.text), c.advance)
  else if c.isAt .number then (some (.number c.current.text), c.advance)
  else (none, c)

/-- Reads a comparison or a query. -/
def term (c : Cursor) : Option Condition × Cursor :=
  match c.expect .identifier .expectedCondition with
  | (none, c) => (none, c)
  | (some name, c) =>
    match Comparator.ofKind? c.current.kind with
    | none => (some (.query name.text), c)
    | some comparator =>
      match operand c.advance with
      | (none, c) => (none, c.complain .expectedOperand)
      | (some right, c) => (some (.comparison name.text comparator right), c)

theorem length_pending_operand_le {c c' : Cursor} {result : Option Operand}
    (h : operand c = (result, c')) : c'.pending.length ≤ c.pending.length := by
  unfold operand at h
  split at h
  · obtain ⟨-, rfl⟩ := Prod.mk.inj h
    exact c.length_pending_advance_le
  split at h <;> obtain ⟨-, rfl⟩ := Prod.mk.inj h
  · exact c.length_pending_advance_le
  · exact Nat.le_refl _

/-- An operand that is read is one token. -/
theorem length_pending_operand_lt {c c' : Cursor} {result : Operand}
    (h : operand c = (some result, c')) : c'.pending.length < c.pending.length := by
  unfold operand at h
  split at h
  · rename_i hat
    obtain ⟨-, rfl⟩ := Prod.mk.inj h
    exact Cursor.length_pending_advance_lt (Cursor.isAt_eof_eq_false hat (by decide))
  split at h
  · rename_i hat
    obtain ⟨-, rfl⟩ := Prod.mk.inj h
    exact Cursor.length_pending_advance_lt (Cursor.isAt_eof_eq_false hat (by decide))
  · simp at h

theorem length_pending_term_le {c c' : Cursor} {result : Option Condition}
    (h : term c = (result, c')) : c'.pending.length ≤ c.pending.length := by
  unfold term at h
  split at h
  · rename_i hname
    obtain ⟨-, rfl⟩ := Prod.mk.inj h
    exact Cursor.length_pending_expect_le hname
  · rename_i name c₁ hname
    have hc₁ := Cursor.length_pending_expect_le hname
    split at h
    · obtain ⟨-, rfl⟩ := Prod.mk.inj h
      exact hc₁
    · have hadvance := c₁.length_pending_advance_le
      split at h
      · rename_i hoperand
        obtain ⟨-, rfl⟩ := Prod.mk.inj h
        have := length_pending_operand_le hoperand
        rw [Cursor.pending_complain]
        omega
      · rename_i hoperand
        obtain ⟨-, rfl⟩ := Prod.mk.inj h
        have := length_pending_operand_le hoperand
        omega

/-- A connective is not the end of the tokens. -/
theorem isAt_eof_of_connective {c : Cursor} {connective : Connective}
    (h : Connective.ofKind? c.current.kind = some connective) :
    c.isAt .eof = false := by
  simp only [Cursor.isAt, decide_eq_false_iff_not]
  intro heof
  simp [heof, Connective.ofKind?] at h

/-- Reads the terms that follow a condition, each after a connective. -/
def joined (left : Condition) (c : Cursor) : Option Condition × Cursor :=
  match _hconnective : Connective.ofKind? c.current.kind with
  | none => (some left, c)
  | some connective =>
    match _hterm : term c.advance with
    | (none, c') => (none, c')
    | (some right, c') => joined (.logical left connective right) c'
termination_by c.pending.length
decreasing_by
  have := length_pending_term_le _hterm
  have := Cursor.length_pending_advance_lt (isAt_eof_of_connective _hconnective)
  omega

/-- Reads a condition. -/
def condition (c : Cursor) : Option Condition × Cursor :=
  match term c with
  | (none, c) => (none, c)
  | (some left, c) => joined left c

/-- Reads one or more operands between commas. -/
def arguments (c : Cursor) : Option (List Operand) × Cursor :=
  match _hoperand : operand c with
  | (none, c₁) => (none, c₁.complain .expectedArgument)
  | (some first, c₁) =>
    match _hcomma : c₁.eat .comma with
    | (none, c₂) => (some [first], c₂)
    | (some _, c₂) =>
      match arguments c₂ with
      | (none, c₃) => (none, c₃)
      | (some others, c₃) => (some (first :: others), c₃)
termination_by c.pending.length
decreasing_by
  have := length_pending_operand_lt _hoperand
  have := Cursor.length_pending_eat_le _hcomma
  omega

/-- Reads the parenthesis that closes the arguments of a command. -/
def closed (name : String) (arguments : List Operand) (c : Cursor) :
    Option Command × Cursor :=
  match c.expect .rightParen .unterminatedArguments with
  | (none, c) => (none, c)
  | (some _, c) => (some ⟨name, arguments⟩, c)

/-- Reads a command. -/
def command (c : Cursor) : Option Command × Cursor :=
  match c.expect .identifier .expectedCommand with
  | (none, c) => (none, c)
  | (some name, c) =>
    match c.eat .leftParen with
    | (none, c) => (some ⟨name.text, []⟩, c)
    | (some _, c) =>
      if c.isAt .rightParen then closed name.text [] c
      else
        match arguments c with
        | (none, c) => (none, c)
        | (some operands, c) => closed name.text operands c

/-- Reads a statement of the form `IF condition THEN command`.  The first token is
passed unseen. -/
def conditional (c : Cursor) : Option Statement × Cursor :=
  let line := c.current.position.line
  match condition c.advance with
  | (none, c) => (none, c)
  | (some condition, c) =>
    match c.expect .thenWord .expectedThen with
    | (none, c) => (none, c)
    | (some _, c) =>
      match command c with
      | (none, c) => (none, c)
      | (some command, c) => (some ⟨.condition condition, command, line⟩, c)

/-- Reads a statement of the form `ELSE command`.  The first token is passed unseen. -/
def fallback (c : Cursor) : Option Statement × Cursor :=
  let line := c.current.position.line
  match command c.advance with
  | (none, c) => (none, c)
  | (some command, c) => (some ⟨.fallback, command, line⟩, c)

/-- Reads a statement that is only a command. -/
def bare (c : Cursor) : Option Statement × Cursor :=
  let line := c.current.position.line
  match command c with
  | (none, c) => (none, c)
  | (some command, c) => (some ⟨.always, command, line⟩, c)

/-- Reads a statement; its first token tells its form. -/
def statement (c : Cursor) : Option Statement × Cursor :=
  if c.isAt .ifWord then conditional c
  else if c.isAt .elseWord then fallback c
  else if c.isAt .identifier then bare c
  else (none, c.complain .expectedStatement)

/-- Passes line breaks. -/
def skipSeparators (c : Cursor) : Cursor :=
  if _hnewline : c.isAt .newline then skipSeparators c.advance else c
termination_by c.pending.length
decreasing_by
  exact Cursor.length_pending_advance_lt
    (Cursor.isAt_eof_eq_false _hnewline (by decide))

/-- The list of statements of a script.  After a statement that could not be read,
reading is taken up at the next place where a statement may start. -/
def statementList : NodeList Statement where
  isAtEnd := fun c => c.isAt .eof
  element := fun c =>
    match statement c with
    | (none, c) => (none, c)
    | (some statement, c) => (some statement, skipSeparators c)
  goOn := fun
    | some _, c => (true, c)
    | none, c =>
      let recovered := Recovery.statement.recover c
      (recovered.1 != some .atEnd, skipSeparators recovered.2)

/-- Reads a script. -/
def script (c : Cursor) : Except Fault Script × Cursor :=
  let list := statementList.read (skipSeparators c)
  (list.1.map Script.mk, list.2)

end Grammar

/-- The script in a list of tokens and the diagnostics made in reading it.  A mistake
costs the statement in which it stands, not the script. -/
def Script.ofTokens (tokens : List Token) :
    Except Fault (Script × List Diagnostic) := do
  let (script, c) := Grammar.script (← Cursor.ofTokens? tokens)
  return (← script, c.diagnostics)

end Autopilot
