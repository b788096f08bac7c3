import Autopilot.Proofs.Grammar.Equations
import Autopilot.Proofs.Grammar.Segment

/-!
# Derivations are read

Where the tokens of a derivation are pending, they are read, and what is read is what
the derivation stands for.  The token behind them must not carry the part on: no
relation may follow a term, no connective a condition and no opening parenthesis a
command without arguments.
-/

namespace Autopilot

theorem ConnectiveWord.ofKind?_comparator (word : ConnectiveWord) :
    Comparator.ofKind? word.token.kind = none := by
  have h := word.kind_eq
  cases hkind : word.token.kind <;> rw [hkind] at h <;> first | rfl | cases h

theorem OperandTree.kind_token (operand : OperandTree) :
    operand.token.kind = .identifier ∨ operand.token.kind = .number := by
  cases operand with
  | name word => exact Or.inl word.kind_eq
  | number digits => exact Or.inr digits.kind_eq

/-- A statement starts with `IF`, with `ELSE` or with a name. -/
theorem StatementTree.kind_firstToken (statement : StatementTree) :
    statement.firstToken.kind = .ifWord ∨ statement.firstToken.kind = .elseWord ∨
      statement.firstToken.kind = .identifier := by
  cases statement with
  | conditional opening _ _ _ => exact Or.inl opening.kind_eq
  | fallback opening _ => exact Or.inr (Or.inl opening.kind_eq)
  | bare command => exact Or.inr (Or.inr command.name.kind_eq)

namespace Grammar

open Cursor

theorem operand_of_passes {operand : OperandTree} {c c' : Cursor}
    (h : c.Passes [operand.token] c') :
    Grammar.operand c = (some operand.operand, c') := by
  obtain ⟨hcurrent, -, hnil⟩ := passes_cons_iff.mp h
  obtain rfl := passes_nil_iff.mp hnil
  cases operand with
  | name word =>
      have hkind : c.current.kind = .identifier := by
        rw [hcurrent]
        exact word.kind_eq
      rw [Grammar.operand, if_pos (isAt_iff.mpr hkind), hcurrent]
      rfl
  | number digits =>
      have hkind : c.current.kind = .number := by
        rw [hcurrent]
        exact digits.kind_eq
      have hname : ¬ c.isAt .identifier = true := by simp [isAt_iff, hkind]
      rw [Grammar.operand, if_neg hname, if_pos (isAt_iff.mpr hkind), hcurrent]
      rfl

theorem term_of_passes {term : TermTree} {c c' : Cursor}
    (h : c.Passes term.tokens c')
    (hrest : Comparator.ofKind? c'.current.kind = none) :
    Grammar.term c = (some term.condition, c') := by
  cases term with
  | query name =>
      obtain ⟨hname, -, hnil⟩ := passes_cons_iff.mp h
      obtain rfl := passes_nil_iff.mp hnil
      have hkind : c.current.kind = .identifier := by rw [hname, name.kind_eq]
      rw [Grammar.term, expect_of_kind hkind]
      simp only [hrest, hname]
      rfl
  | comparison left sign right =>
      obtain ⟨hleft, -, hrest₁⟩ := passes_cons_iff.mp h
      obtain ⟨hsign, -, hrest₂⟩ := passes_cons_iff.mp hrest₁
      have hkind : c.current.kind = .identifier := by rw [hleft, left.kind_eq]
      have hcomparator : Comparator.ofKind? c.advance.current.kind =
          some sign.comparator := by rw [hsign, sign.kind_eq]
      rw [Grammar.term, expect_of_kind hkind]
      simp only [hcomparator, operand_of_passes hrest₂, hleft]
      rfl

/-- The first terms of a condition end where a connective stands. -/
theorem ofKind?_comparator_of_joined {others : List (ConnectiveWord × TermTree)}
    {c c' : Cursor} (h : c.Passes (joinedTokens others) c')
    (hrest : Comparator.ofKind? c'.current.kind = none) :
    Comparator.ofKind? c.current.kind = none := by
  cases others with
  | nil =>
      obtain rfl := passes_nil_iff.mp h
      exact hrest
  | cons other others =>
      obtain ⟨hcurrent, -, -⟩ := passes_cons_iff.mp h
      rw [hcurrent]
      exact other.1.ofKind?_comparator

theorem joined_of_passes {others : List (ConnectiveWord × TermTree)}
    (left : Condition) {c c' : Cursor} (h : c.Passes (joinedTokens others) c')
    (hcomparator : Comparator.ofKind? c'.current.kind = none)
    (hconnective : Connective.ofKind? c'.current.kind = none) :
    joined left c = (some (joinedCondition left others), c') := by
  induction others generalizing left c with
  | nil =>
      obtain rfl := passes_nil_iff.mp h
      exact joined_of_no_connective hconnective
  | cons other others ih =>
      obtain ⟨hword, -, hrest⟩ := passes_cons_iff.mp h
      obtain ⟨c₁, hterm, hothers⟩ := passes_append_iff.mp hrest
      have hkind : Connective.ofKind? c.current.kind = some other.1.connective := by
        rw [hword, other.1.kind_eq]
      have hread := term_of_passes hterm
        (ofKind?_comparator_of_joined hothers hcomparator)
      rw [joined_of_term hkind hread]
      exact ih _ hothers

theorem condition_of_passes {condition : ConditionTree} {c c' : Cursor}
    (h : c.Passes condition.tokens c')
    (hcomparator : Comparator.ofKind? c'.current.kind = none)
    (hconnective : Connective.ofKind? c'.current.kind = none) :
    Grammar.condition c = (some condition.condition, c') := by
  obtain ⟨c₁, hfirst, hothers⟩ := passes_append_iff.mp h
  have hterm := term_of_passes hfirst
    (ofKind?_comparator_of_joined hothers hcomparator)
  rw [Grammar.condition, hterm]
  exact joined_of_passes _ hothers hcomparator hconnective

/-- One or more operands between commas, without a comma behind them. -/
theorem arguments_of_passes {first : OperandTree}
    {others : List (Terminal .comma × OperandTree)} {c c' : Cursor}
    (h : c.Passes (OperandsTree.tokens ⟨first, others⟩) c')
    (hcomma : c'.current.kind ≠ .comma) :
    arguments c = (some (OperandsTree.operands ⟨first, others⟩), c') := by
  induction others generalizing first c with
  | nil => exact arguments_of_no_comma (operand_of_passes h) hcomma
  | cons other others ih =>
      have hsplit : OperandsTree.tokens ⟨first, other :: others⟩ =
          [first.token] ++ other.1.token :: OperandsTree.tokens ⟨other.2, others⟩ := rfl
      rw [hsplit] at h
      obtain ⟨c₁, hfirst, hrest⟩ := passes_append_iff.mp h
      obtain ⟨hcurrent, -, hothers⟩ := passes_cons_iff.mp hrest
      have hkind : c₁.current.kind = .comma := by rw [hcurrent, other.1.kind_eq]
      rw [arguments_of_comma (operand_of_passes hfirst) hkind, ih hothers]
      rfl

theorem closed_of_passes (name : String) (arguments : List Operand)
    {closing : Terminal .rightParen} {c c' : Cursor}
    (h : c.Passes [closing.token] c') :
    closed name arguments c = (some ⟨name, arguments⟩, c') := by
  obtain ⟨hcurrent, -, hnil⟩ := passes_cons_iff.mp h
  obtain rfl := passes_nil_iff.mp hnil
  have hkind : c.current.kind = .rightParen := by rw [hcurrent, closing.kind_eq]
  rw [closed, expect_of_kind hkind]

theorem command_of_passes {command : CommandTree} {c c' : Cursor}
    (h : c.Passes command.tokens c') (hrest : c'.current.kind ≠ .leftParen) :
    Grammar.command c = (some command.command, c') := by
  obtain ⟨name, arguments⟩ := command
  obtain ⟨hname, -, harguments⟩ := passes_cons_iff.mp h
  have hkind : c.current.kind = .identifier := by rw [hname, name.kind_eq]
  rw [Grammar.command, expect_of_kind hkind, hname]
  dsimp only
  cases arguments with
  | none =>
      obtain rfl := passes_nil_iff.mp harguments
      rw [eat_of_kind_ne hrest]
      rfl
  | some arguments =>
      obtain ⟨opening, operands, closing⟩ := arguments
      obtain ⟨hopening, -, hinside⟩ := passes_cons_iff.mp harguments
      have hparen : c.advance.current.kind = .leftParen := by
        rw [hopening, opening.kind_eq]
      rw [eat_of_kind hparen]
      dsimp only
      obtain ⟨c₁, hoperands, hclosing⟩ := passes_append_iff.mp hinside
      have hclosed : c₁.current.kind = .rightParen := by
        rw [(passes_cons_iff.mp hclosing).1, closing.kind_eq]
      cases operands with
      | none =>
          obtain rfl := passes_nil_iff.mp hoperands
          rw [if_pos (isAt_iff.mpr hclosed), closed_of_passes _ _ hclosing]
          rfl
      | some operands =>
          obtain ⟨first, others⟩ := operands
          have hfirst : c.advance.advance.current.kind = first.token.kind := by
            rw [(passes_cons_iff.mp hoperands).1]
          have hopen : ¬ c.advance.advance.isAt .rightParen = true := by
            rw [isAt_iff, hfirst]
            rcases first.kind_token with hkind | hkind <;> rw [hkind] <;> decide
          rw [if_neg hopen, arguments_of_passes hoperands (by simp [hclosed])]
          exact closed_of_passes _ _ hclosing

theorem statement_of_passes {statement : StatementTree} {c c' : Cursor}
    (h : c.Passes statement.tokens c') (hrest : c'.current.kind ≠ .leftParen) :
    Grammar.statement c = (some statement.statement, c') := by
  cases statement with
  | conditional opening condition middle command =>
      obtain ⟨hopening, -, hinside⟩ := passes_cons_iff.mp h
      obtain ⟨c₁, hcondition, hbehind⟩ := passes_append_iff.mp hinside
      obtain ⟨hmiddle, -, hcommand⟩ := passes_cons_iff.mp hbehind
      have hif : c.current.kind = .ifWord := by rw [hopening, opening.kind_eq]
      have hthen : c₁.current.kind = .thenWord := by rw [hmiddle, middle.kind_eq]
      rw [Grammar.statement, if_pos (isAt_iff.mpr hif), conditional,
        condition_of_passes hcondition (by rw [hthen]; rfl) (by rw [hthen]; rfl)]
      dsimp only
      rw [expect_of_kind hthen]
      dsimp only
      rw [command_of_passes hcommand hrest, hopening]
      rfl
  | fallback opening command =>
      obtain ⟨hopening, -, hcommand⟩ := passes_cons_iff.mp h
      have helse : c.current.kind = .elseWord := by rw [hopening, opening.kind_eq]
      have hif : ¬ c.isAt .ifWord = true := by simp [isAt_iff, helse]
      rw [Grammar.statement, if_neg hif, if_pos (isAt_iff.mpr helse), fallback,
        command_of_passes hcommand hrest, hopening]
      rfl
  | bare command =>
      have hfirst := (passes_cons_iff.mp h).1
      have hname : c.current.kind = .identifier := by
        rw [hfirst, command.name.kind_eq]
      have hif : ¬ c.isAt .ifWord = true := by simp [isAt_iff, hname]
      have helse : ¬ c.isAt .elseWord = true := by simp [isAt_iff, hname]
      rw [Grammar.statement, if_neg hif, if_neg helse, if_pos (isAt_iff.mpr hname),
        bare, command_of_passes h hrest, hfirst]
      rfl

/-- The line breaks in front of a token of another kind are passed. -/
theorem skipSeparators_of_passes {separators : List (Terminal .newline)}
    {c c' : Cursor} (h : c.Passes (separators.map (·.token)) c')
    (hrest : c'.current.kind ≠ .newline) : skipSeparators c = c' := by
  induction separators generalizing c with
  | nil =>
      obtain rfl := passes_nil_iff.mp h
      rw [skipSeparators, dif_neg (mt isAt_iff.mp hrest)]
  | cons separator separators ih =>
      obtain ⟨hcurrent, -, hothers⟩ := passes_cons_iff.mp h
      have hkind : c.current.kind = .newline := by rw [hcurrent, separator.kind_eq]
      rw [skipSeparators, dif_pos (isAt_iff.mpr hkind)]
      exact ih hothers

/-- What follows the separators of a script is a statement or the end. -/
theorem kind_of_statementTokens
    {statements : List (StatementTree × List (Terminal .newline))} {c c' : Cursor}
    (h : c.Passes (statementTokens statements) c') (hend : c'.pending = []) :
    c.current.kind ≠ .newline ∧ c.current.kind ≠ .leftParen := by
  cases statements with
  | nil =>
      obtain rfl := passes_nil_iff.mp h
      rw [current_kind_eq_eof_iff.mpr hend]
      decide
  | cons first statements =>
      obtain ⟨statement, separators⟩ := first
      obtain ⟨rest, hcons, -⟩ := statement.exists_tokens_eq_cons
      rw [statementTokens_cons, hcons] at h
      rw [(passes_cons_iff.mp h).1]
      rcases statement.kind_firstToken with hkind | hkind | hkind <;>
        rw [hkind] <;> decide

/-- Statements with line breaks behind them are all read, without a remark. -/
theorem read_statementList_of_passes
    {statements : List (StatementTree × List (Terminal .newline))} {c c' : Cursor}
    (h : c.Passes (statementTokens statements) c') (hend : c'.pending = []) :
    statementList.read c =
      (.ok (statements.map (·.1.statement)), c') := by
  induction statements generalizing c with
  | nil =>
      obtain rfl := passes_nil_iff.mp h
      exact read_statementList_of_pending_nil hend
  | cons first statements ih =>
      obtain ⟨statement, separators⟩ := first
      rw [statementTokens_cons] at h
      obtain ⟨c₂, hfirst, hothers⟩ := passes_append_iff.mp h
      obtain ⟨c₁, hstatement, hseparators⟩ := passes_append_iff.mp hfirst
      obtain ⟨hnewline, hparen⟩ := kind_of_statementTokens hothers hend
      have hkind : c₁.current.kind ≠ .leftParen := by
        cases separators with
        | nil =>
            obtain rfl := passes_nil_iff.mp hseparators
            exact hparen
        | cons separator separators =>
            rw [(passes_cons_iff.mp hseparators).1, separator.kind_eq]
            decide
      have hread := statement_of_passes hstatement hkind
      have hne : c.pending ≠ [] := by
        obtain ⟨rest, hcons, -⟩ := statement.exists_tokens_eq_cons
        rw [hstatement.pending, hcons]
        simp
      rw [read_statementList hne, hread]
      dsimp only [roundEnd]
      rw [skipSeparators_of_passes hseparators hnewline, ih hothers]
      rfl

end Grammar

end Autopilot
