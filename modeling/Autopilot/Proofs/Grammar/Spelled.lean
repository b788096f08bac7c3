import Autopilot.Proofs.Grammar.Derivation
import Autopilot.Proofs.Lexer.Placement
import Autopilot.Proofs.Script.Spelling

/-!
# Derivations of spelled scripts

Tokens that are spelled as a script is have a derivation that stands for the script,
provided that its conditions are nested to the left.
-/

namespace Autopilot

/-- A token without its place. -/
def Token.spelled (token : Token) : TokenKind × String :=
  (token.kind, token.text)

/-- The token that a lexeme is, without a place. -/
def Lexeme.spelled? : Lexeme → Option (TokenKind × String)
  | token kind text => some (kind, String.ofList text)
  | _ => none

/-- The tokens among lexemes, without their places. -/
def spelling (ls : List Lexeme) : List (TokenKind × String) :=
  ls.filterMap Lexeme.spelled?

def Connective.kind : Connective → TokenKind
  | conj => .andWord
  | disj => .orWord

open Lexeme

@[simp]
theorem spelling_cons (lexeme : Lexeme) (ls : List Lexeme) :
    spelling (lexeme :: ls) = lexeme.spelled?.toList ++ spelling ls := by
  unfold spelling
  cases h : lexeme.spelled? <;> simp [h]

@[simp]
theorem spelling_append (front back : List Lexeme) :
    spelling (front ++ back) = spelling front ++ spelling back :=
  List.filterMap_append

@[simp]
theorem spelled?_space : space.spelled? = none := rfl

@[simp]
theorem spelled?_comma : comma.spelled? = some (.comma, ",") := rfl

@[simp]
theorem spelled?_opening : opening.spelled? = some (.leftParen, "(") := rfl

@[simp]
theorem spelled?_closing : closing.spelled? = some (.rightParen, ")") := rfl

@[simp]
theorem spelled?_lineEnd : lineEnd.spelled? = some (.newline, "\n") := rfl

@[simp]
theorem spelled?_sign (comparator : Comparator) :
    (sign comparator).spelled? = some (comparator.kind, comparator.sign) := by
  cases comparator <;> rfl

theorem spelled?_word {text : String} {kind : TokenKind}
    (h : (keywordKind? text).getD .identifier = kind) :
    (word text).spelled? = some (kind, text) := by
  simp only [word, spelled?, wordKind, String.ofList_toList, h]

theorem spelled?_name {name : String} (h : IsName name) :
    (word name).spelled? = some (.identifier, name) :=
  spelled?_word (by rw [h.2]; rfl)

@[simp]
theorem spelled?_connective (connective : Connective) :
    (word connective.word).spelled? = some (connective.kind, connective.word) := by
  cases connective
  · exact spelled?_word (by decide)
  · exact spelled?_word (by decide)

/-- The tokens of placed lexemes are spelled as the lexemes are. -/
theorem map_spelled_tokensOf (p : Position) (ls : List Lexeme) :
    (tokensOf (placedFrom p ls)).map Token.spelled = spelling ls := by
  induction ls generalizing p with
  | nil => rfl
  | cons lexeme ls ih =>
      rw [placedFrom, tokensOf_cons, List.map_append, ih, spelling_cons]
      cases lexeme <;> rfl

/-! ## Derivations -/

/-- Tokens that are spelled as a token and others after it. -/
theorem exists_of_map_spelled_cons {tokens : List Token} {kind : TokenKind}
    {text : String} {rest : List (TokenKind × String)}
    (h : tokens.map Token.spelled = (kind, text) :: rest) :
    ∃ (leaf : Terminal kind) (others : List Token), tokens = leaf.token :: others ∧
      leaf.token.text = text ∧ others.map Token.spelled = rest := by
  obtain ⟨token, others, rfl, hspelled, hothers⟩ := List.map_eq_cons_iff.mp h
  obtain ⟨hkind, htext⟩ := Prod.mk.inj hspelled
  exact ⟨⟨token, hkind⟩, others, rfl, htext, hothers⟩

theorem Operand.exists_of_map_spelled {operand : Operand} (h : operand.IsSpelled)
    {tokens : List Token} {rest : List (TokenKind × String)}
    (htokens : tokens.map Token.spelled = operand.lexeme.spelled?.toList ++ rest) :
    ∃ (tree : OperandTree) (others : List Token), tokens = tree.token :: others ∧
      tree.operand = operand ∧ others.map Token.spelled = rest := by
  cases operand with
  | name text =>
      rw [lexeme, spelled?_name h] at htokens
      obtain ⟨leaf, others, rfl, rfl, hothers⟩ := exists_of_map_spelled_cons htokens
      exact ⟨.name leaf, others, rfl, rfl, hothers⟩
  | number raw =>
      rw [lexeme, spelled?, String.ofList_toList] at htokens
      obtain ⟨leaf, others, rfl, rfl, hothers⟩ := exists_of_map_spelled_cons htokens
      exact ⟨.number leaf, others, rfl, rfl, hothers⟩

theorem ofKind?_kind (comparator : Comparator) :
    Comparator.ofKind? comparator.kind = some comparator := by
  cases comparator <;> rfl

theorem ofKind?_connective_kind (connective : Connective) :
    Connective.ofKind? connective.kind = some connective := by
  cases connective <;> rfl

/-- A condition without connectives is a term. -/
theorem Condition.exists_termTree {condition : Condition} (h : condition.IsSpelled)
    (hterm : condition.isLogical = false) {tokens : List Token}
    (htokens : tokens.map Token.spelled = spelling condition.lexemes) :
    ∃ tree : TermTree, tree.tokens = tokens ∧ tree.condition = condition := by
  cases condition with
  | comparison left comparator right =>
      obtain ⟨hleft, hright⟩ := h
      simp only [lexemes, spelling_cons, spelled?_name hleft, spelled?_space,
        spelled?_sign, Option.toList_some, Option.toList_none, List.nil_append,
        List.cons_append] at htokens
      obtain ⟨name, behind, rfl, rfl, hbehind⟩ := exists_of_map_spelled_cons htokens
      obtain ⟨leaf, last, rfl, -, hlast⟩ := exists_of_map_spelled_cons hbehind
      obtain ⟨operand, none, rfl, rfl, hnone⟩ :=
        Operand.exists_of_map_spelled hright hlast
      obtain rfl := List.map_eq_nil_iff.mp hnone
      have hsign : Comparator.ofKind? leaf.token.kind = some comparator := by
        rw [leaf.kind_eq, ofKind?_kind]
      exact ⟨.comparison name ⟨leaf.token, comparator, hsign⟩ operand, rfl, rfl⟩
  | query name =>
      simp only [lexemes, spelling_cons, spelled?_name h, Option.toList_some,
        List.cons_append, List.nil_append] at htokens
      obtain ⟨leaf, none, rfl, rfl, hnone⟩ := exists_of_map_spelled_cons htokens
      obtain rfl := List.map_eq_nil_iff.mp hnone
      exact ⟨.query leaf, rfl, rfl⟩
  | logical left connective right => cases hterm

theorem joinedTokens_append (front back : List (ConnectiveWord × TermTree)) :
    joinedTokens (front ++ back) = joinedTokens front ++ joinedTokens back :=
  List.flatMap_append

/-- A condition nested to the left is a chain of terms. -/
theorem Condition.exists_conditionTree {condition : Condition}
    (h : condition.IsSpelled) (hleft : condition.LeftNested) {tokens : List Token}
    (htokens : tokens.map Token.spelled = spelling condition.lexemes) :
    ∃ tree : ConditionTree, tree.tokens = tokens ∧ tree.condition = condition := by
  induction condition generalizing tokens with
  | comparison left comparator right =>
      obtain ⟨term, rfl, hterm⟩ := exists_termTree h rfl htokens
      exact ⟨⟨term, []⟩, List.append_nil _, hterm⟩
  | query name =>
      obtain ⟨term, rfl, hterm⟩ := exists_termTree h rfl htokens
      exact ⟨⟨term, []⟩, List.append_nil _, hterm⟩
  | logical left connective right ihl ihr =>
      obtain ⟨hleftNested, -, hterm⟩ := hleft
      simp only [lexemes, hterm, spelling_append, spelling_cons, spelled?_space,
        spelled?_connective, Option.toList_some, Option.toList_none, List.nil_append,
        List.cons_append] at htokens
      obtain ⟨front, back, rfl, hfront, hback⟩ := List.map_eq_append_iff.mp htokens
      obtain ⟨leaf, behind, rfl, -, hbehind⟩ := exists_of_map_spelled_cons hback
      obtain ⟨⟨first, others⟩, rfl, hcondition⟩ := ihl h.1 hleftNested hfront
      obtain ⟨term, rfl, rfl⟩ := exists_termTree h.2 hterm (by simpa using hbehind)
      have hword : Connective.ofKind? leaf.token.kind = some connective := by
        rw [leaf.kind_eq, ofKind?_connective_kind]
      let other : ConnectiveWord × TermTree := (⟨leaf.token, connective, hword⟩, term)
      refine ⟨⟨first, others ++ [other]⟩, ?_, ?_⟩
      · simp only [ConditionTree.tokens, joinedTokens_append, List.append_assoc]
        simp [joinedTokens, other]
      · rw [← hcondition]
        simp [ConditionTree.condition, joinedCondition, other]

theorem exists_of_furtherLexemes {operands : List Operand}
    (h : ∀ operand ∈ operands, operand.IsSpelled) {tokens : List Token}
    {rest : List (TokenKind × String)}
    (htokens : tokens.map Token.spelled = spelling (furtherLexemes operands) ++ rest) :
    ∃ (trees : List (Terminal .comma × OperandTree)) (others : List Token),
      tokens = (trees.flatMap fun (comma, operand) => [comma.token, operand.token]) ++
        others ∧
      (trees.map fun (_, operand) => operand.operand) = operands ∧
      others.map Token.spelled = rest := by
  induction operands generalizing tokens with
  | nil => exact ⟨[], tokens, rfl, rfl, htokens⟩
  | cons operand operands ih =>
      have hcons : spelling (furtherLexemes (operand :: operands)) =
          (.comma, ",") :: (operand.lexeme.spelled?.toList ++
            spelling (furtherLexemes operands)) := by
        simp [furtherLexemes]
      rw [hcons, List.cons_append, List.append_assoc] at htokens
      obtain ⟨hoperand, hoperands⟩ := List.forall_mem_cons.mp h
      obtain ⟨comma, behind, rfl, -, hbehind⟩ := exists_of_map_spelled_cons htokens
      obtain ⟨tree, last, rfl, rfl, hlast⟩ :=
        Operand.exists_of_map_spelled hoperand hbehind
      obtain ⟨trees, others, rfl, rfl, hothers⟩ := ih hoperands hlast
      exact ⟨(comma, tree) :: trees, others, rfl, rfl, hothers⟩

theorem Command.exists_commandTree {command : Command} (h : command.IsSpelled)
    {tokens : List Token}
    (htokens : tokens.map Token.spelled = spelling command.lexemes) :
    ∃ tree : CommandTree, tree.tokens = tokens ∧ tree.command = command := by
  obtain ⟨name, arguments⟩ := command
  obtain ⟨hname, harguments⟩ := h
  have hspelled := spelled?_name hname
  cases arguments with
  | nil =>
      simp only [lexemes, spelling_cons, hspelled] at htokens
      obtain ⟨leaf, none, rfl, rfl, hnone⟩ := exists_of_map_spelled_cons htokens
      obtain rfl := List.map_eq_nil_iff.mp hnone
      exact ⟨⟨leaf, none⟩, rfl, rfl⟩
  | cons first others =>
      simp only [lexemes, spelling_cons, hspelled, spelled?_opening, spelling_append,
        spelled?_closing] at htokens
      obtain ⟨hfirst, hothers⟩ := List.forall_mem_cons.mp harguments
      obtain ⟨leaf, inside, rfl, rfl, hinside⟩ := exists_of_map_spelled_cons htokens
      obtain ⟨opening, operands, rfl, -, hoperands⟩ := exists_of_map_spelled_cons hinside
      obtain ⟨tree, further, rfl, rfl, hfurther⟩ :=
        Operand.exists_of_map_spelled hfirst hoperands
      obtain ⟨trees, last, rfl, rfl, hlast⟩ :=
        exists_of_furtherLexemes hothers hfurther
      obtain ⟨closing, none, rfl, -, hnone⟩ := exists_of_map_spelled_cons hlast
      obtain rfl := List.map_eq_nil_iff.mp hnone
      refine ⟨⟨leaf, some ⟨opening, some ⟨tree, trees⟩, closing⟩⟩, ?_, rfl⟩
      simp [CommandTree.tokens, ArgumentsTree.tokens, OperandsTree.tokens]

/-- A spelled statement whose condition is nested to the left has a derivation. -/
theorem Statement.exists_statementTree {statement : Statement}
    (h : statement.IsSpelled) (hleft : statement.trigger.LeftNested)
    {tokens : List Token}
    (htokens : tokens.map Token.spelled = spelling statement.lexemes) :
    ∃ tree : StatementTree, tree.tokens = tokens ∧ tree.trigger = statement.trigger ∧
      tree.commandTree.command = statement.command := by
  obtain ⟨trigger, command, line⟩ := statement
  obtain ⟨htrigger, hcommand⟩ := h
  have hif : (word "IF").spelled? = some (.ifWord, "IF") := spelled?_word (by decide)
  have hthen : (word "THEN").spelled? = some (.thenWord, "THEN") :=
    spelled?_word (by decide)
  have helse : (word "ELSE").spelled? = some (.elseWord, "ELSE") :=
    spelled?_word (by decide)
  cases trigger with
  | condition condition =>
      simp only [lexemes, spelling_cons, spelling_append, hif, hthen,
        spelled?_space, Option.toList_none, Option.toList_some, List.nil_append,
        List.cons_append] at htokens
      obtain ⟨opening, behind, rfl, -, hbehind⟩ := exists_of_map_spelled_cons htokens
      obtain ⟨front, back, rfl, hfront, hback⟩ := List.map_eq_append_iff.mp hbehind
      obtain ⟨tested, rfl, rfl⟩ := Condition.exists_conditionTree htrigger hleft hfront
      obtain ⟨middle, last, rfl, -, hlast⟩ := exists_of_map_spelled_cons hback
      obtain ⟨tree, rfl, rfl⟩ := Command.exists_commandTree hcommand hlast
      exact ⟨.conditional opening tested middle tree, rfl, rfl, rfl⟩
  | fallback =>
      simp only [lexemes, spelling_cons, helse, spelled?_space] at htokens
      obtain ⟨opening, last, rfl, -, hlast⟩ := exists_of_map_spelled_cons htokens
      obtain ⟨tree, rfl, rfl⟩ := Command.exists_commandTree hcommand hlast
      exact ⟨.fallback opening tree, rfl, rfl, rfl⟩
  | always =>
      obtain ⟨tree, rfl, rfl⟩ := Command.exists_commandTree hcommand htokens
      exact ⟨.bare tree, rfl, rfl, rfl⟩

end Autopilot
