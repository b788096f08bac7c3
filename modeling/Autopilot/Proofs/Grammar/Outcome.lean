import Autopilot.Proofs.Cursor.Passing
import Autopilot.Proofs.Grammar.Derivation

/-!
# What comes of reading a part of the grammar

A part of the grammar is read in one of two ways.  Either the tokens of a derivation
are passed and the result is what the derivation stands for, or some tokens are passed
that cannot be completed and there is one remark, on the token that does not fit.

The tokens passed in vain never hold a line break, and `IF` or `ELSE` only in front.
-/

namespace Autopilot

/-- Whether a token stands inside a line and does not start a statement by itself. -/
def Token.IsInner (token : Token) : Prop :=
  token.kind ≠ .newline ∧ token.kind ≠ .ifWord ∧ token.kind ≠ .elseWord

/-- Whether all tokens of a list are inner ones. -/
def AreInner (tokens : List Token) : Prop :=
  ∀ token ∈ tokens, token.IsInner

@[simp]
theorem areInner_nil : AreInner [] := by
  simp [AreInner]

@[simp]
theorem areInner_cons {token : Token} {tokens : List Token} :
    AreInner (token :: tokens) ↔ token.IsInner ∧ AreInner tokens := by
  simp [AreInner]

@[simp]
theorem areInner_append {front back : List Token} :
    AreInner (front ++ back) ↔ AreInner front ∧ AreInner back := by
  simp only [AreInner, List.mem_append]
  constructor
  · intro h
    constructor
    · intro t ht
      exact h t (Or.inl ht)
    · intro t ht
      exact h t (Or.inr ht)
  · rintro ⟨hfront, hback⟩ t (ht | ht)
    · exact hfront t ht
    · exact hback t ht

/-- A token of a kind that is neither a line break nor starts a statement. -/
theorem Token.isInner_of_kind {token : Token} {kind : TokenKind}
    (h : token.kind = kind)
    (hkind : kind ≠ .newline ∧ kind ≠ .ifWord ∧ kind ≠ .elseWord := by decide) :
    token.IsInner := by
  rw [IsInner, h]
  exact hkind

theorem ComparatorSign.isInner (sign : ComparatorSign) : sign.token.IsInner := by
  have h := sign.kind_eq
  refine ⟨?_, ?_, ?_⟩ <;> intro hkind <;> rw [hkind] at h <;> cases h

theorem ConnectiveWord.isInner (word : ConnectiveWord) : word.token.IsInner := by
  have h := word.kind_eq
  refine ⟨?_, ?_, ?_⟩ <;> intro hkind <;> rw [hkind] at h <;> cases h

theorem OperandTree.isInner (operand : OperandTree) : operand.token.IsInner := by
  cases operand with
  | name word => exact Token.isInner_of_kind word.kind_eq
  | number digits => exact Token.isInner_of_kind digits.kind_eq

theorem TermTree.areInner (term : TermTree) : AreInner term.tokens := by
  cases term with
  | query name => simpa [tokens] using Token.isInner_of_kind name.kind_eq
  | comparison left sign right =>
      simpa [tokens] using
        ⟨Token.isInner_of_kind left.kind_eq, sign.isInner, right.isInner⟩

theorem areInner_joinedTokens (others : List (ConnectiveWord × TermTree)) :
    AreInner (joinedTokens others) := by
  induction others with
  | nil => simp [joinedTokens]
  | cons other others ih =>
      rw [joinedTokens, List.flatMap_cons]
      exact areInner_append.mpr
        ⟨areInner_cons.mpr ⟨other.1.isInner, other.2.areInner⟩, ih⟩

theorem ConditionTree.areInner (condition : ConditionTree) :
    AreInner condition.tokens :=
  areInner_append.mpr
    ⟨condition.first.areInner, areInner_joinedTokens condition.others⟩

theorem OperandsTree.areInner (operands : OperandsTree) : AreInner operands.tokens := by
  rw [tokens, areInner_cons]
  refine ⟨operands.first.isInner, ?_⟩
  induction operands.others with
  | nil => simp
  | cons other others ih =>
      rw [List.flatMap_cons, areInner_append]
      refine ⟨?_, ih⟩
      simpa using ⟨Token.isInner_of_kind other.1.kind_eq, other.2.isInner⟩

theorem ArgumentsTree.areInner (arguments : ArgumentsTree) :
    AreInner arguments.tokens := by
  rw [tokens, areInner_cons, areInner_append]
  refine ⟨Token.isInner_of_kind arguments.opening.kind_eq, ?_, ?_⟩
  · cases arguments.operands with
    | none => exact areInner_nil
    | some operands => exact operands.areInner
  · simpa using Token.isInner_of_kind arguments.closing.kind_eq

theorem CommandTree.areInner (command : CommandTree) : AreInner command.tokens := by
  rw [tokens, areInner_cons]
  refine ⟨Token.isInner_of_kind command.name.kind_eq, ?_⟩
  cases command.arguments with
  | none => exact areInner_nil
  | some arguments => exact arguments.areInner

/-- After its first token a statement has inner tokens only. -/
theorem StatementTree.exists_tokens_eq_cons (statement : StatementTree) :
    ∃ rest, statement.tokens = statement.firstToken :: rest ∧ AreInner rest := by
  cases statement with
  | conditional opening condition middle command =>
      refine ⟨_, rfl, ?_⟩
      rw [areInner_append, areInner_cons]
      exact ⟨condition.areInner, Token.isInner_of_kind middle.kind_eq,
        command.areInner⟩
  | fallback opening command => exact ⟨_, rfl, command.areInner⟩
  | bare command =>
      have h := command.areInner
      rw [CommandTree.tokens, areInner_cons] at h
      exact ⟨_, rfl, h.2⟩

namespace Grammar

/-- Getting stuck: some inner tokens are passed and there is a remark on the next
token. -/
inductive Stuck (c : Cursor) : Cursor → Prop
  | intro (used : List Token) (remark : Remark) (c' : Cursor)
      (passes : c.Passes used c') (inner : AreInner used) :
    Stuck c (c'.complain remark)

/-- A part that gets stuck after inner tokens makes the whole get stuck. -/
theorem Stuck.after {c c₁ c₂ : Cursor} {used : List Token} (h : Stuck c₁ c₂)
    (hused : c.Passes used c₁) (hinner : AreInner used) : Stuck c c₂ := by
  cases h with
  | intro more remark c' passes inner =>
      exact .intro (used ++ more) remark c' (hused.trans passes)
        (areInner_append.mpr ⟨hinner, inner⟩)

/-- A remark on the very token at the cursor. -/
theorem stuck_complain (c : Cursor) (remark : Remark) : Stuck c (c.complain remark) :=
  .intro [] remark c (Cursor.Passes.refl c) areInner_nil

/-- The two ways of reading a part of the grammar at a cursor: the tokens of a
derivation are passed, or the reader gets stuck. -/
inductive Outcome {τ α : Type} (tokens : τ → List Token) (value : τ → α)
    (c : Cursor) : Option α × Cursor → Prop
  | read (tree : τ) (c' : Cursor) (passes : c.Passes (tokens tree) c') :
    Outcome tokens value c (some (value tree), c')
  | stuck (c' : Cursor) (stuck : Stuck c c') : Outcome tokens value c (none, c')

/-- Nothing is the result of getting stuck only. -/
theorem Outcome.stuck_of_none {τ α : Type} {tokens : τ → List Token} {value : τ → α}
    {c c' : Cursor} (h : Outcome tokens value c (none, c')) : Stuck c c' := by
  cases h with
  | stuck c' stuck => exact stuck

/-- What is read is the value of the derivation of the tokens that are passed. -/
theorem Outcome.exists_of_some {τ α : Type} {tokens : τ → List Token} {value : τ → α}
    {c c' : Cursor} {found : α} (h : Outcome tokens value c (some found, c')) :
    ∃ tree, value tree = found ∧ c.Passes (tokens tree) c' := by
  cases h with
  | read tree c' passes => exact ⟨tree, rfl, passes⟩

/-! ## The parts of a statement -/

/-- An operand is read, or the cursor stays where it is and there is no remark. -/
theorem operand_cases (c : Cursor) :
    (∃ (tree : OperandTree) (c' : Cursor),
      operand c = (some tree.operand, c') ∧ c.Passes [tree.token] c') ∨
    (operand c = (none, c) ∧
      c.current.kind ≠ .identifier ∧ c.current.kind ≠ .number) := by
  by_cases hname : c.current.kind = .identifier
  · refine Or.inl ⟨.name ⟨c.current, hname⟩, c.advance, ?_,
      Cursor.passes_advance (by simp [hname])⟩
    rw [operand, if_pos (Cursor.isAt_iff.mpr hname)]
    rfl
  · by_cases hnumber : c.current.kind = .number
    · refine Or.inl ⟨.number ⟨c.current, hnumber⟩, c.advance, ?_,
        Cursor.passes_advance (by simp [hnumber])⟩
      rw [operand, if_neg (mt Cursor.isAt_iff.mp hname),
        if_pos (Cursor.isAt_iff.mpr hnumber)]
      rfl
    · refine Or.inr ⟨?_, hname, hnumber⟩
      rw [operand, if_neg (mt Cursor.isAt_iff.mp hname),
        if_neg (mt Cursor.isAt_iff.mp hnumber)]

theorem exists_of_operand {c c' : Cursor} {result : Operand}
    (h : operand c = (some result, c')) :
    ∃ tree : OperandTree, tree.operand = result ∧ c.Passes [tree.token] c' := by
  rcases operand_cases c with ⟨tree, c₁, hread, hpass⟩ | ⟨hnone, -, -⟩
  · obtain ⟨hresult, rfl⟩ := Prod.mk.inj (hread.symm.trans h)
    exact ⟨tree, Option.some.inj hresult, hpass⟩
  · simp [hnone] at h

theorem eq_of_operand_none {c c' : Cursor} (h : operand c = (none, c')) : c' = c := by
  rcases operand_cases c with ⟨tree, c₁, hread, -⟩ | ⟨hnone, -, -⟩
  · simp [hread] at h
  · exact (Prod.mk.inj (h.symm.trans hnone)).2

theorem kind_ne_eof_of_comparator {token : Token} {comparator : Comparator}
    (h : Comparator.ofKind? token.kind = some comparator) : token.kind ≠ .eof := by
  intro heof
  rw [heof] at h
  cases h

theorem kind_ne_eof_of_connective {token : Token} {connective : Connective}
    (h : Connective.ofKind? token.kind = some connective) : token.kind ≠ .eof := by
  intro heof
  rw [heof] at h
  cases h

theorem term_outcome (c : Cursor) :
    Outcome TermTree.tokens TermTree.condition c (term c) := by
  rw [term]
  rcases c.expect_cases (by decide : TokenKind.identifier ≠ .eof)
    .expectedCondition with
    ⟨hname, hexpect, hpass⟩ | ⟨-, hexpect⟩
  · rw [hexpect]
    dsimp only
    cases hsign : Comparator.ofKind? c.advance.current.kind with
    | none =>
        exact Outcome.read (TermTree.query ⟨c.current, hname⟩) c.advance hpass
    | some comparator =>
        have hsigned := hpass.trans
          (Cursor.passes_advance (kind_ne_eof_of_comparator hsign))
        rcases operand_cases c.advance.advance with
          ⟨right, c', hread, hright⟩ | ⟨hnone, -, -⟩
        · rw [hread]
          exact Outcome.read
            (TermTree.comparison ⟨_, hname⟩ ⟨_, comparator, hsign⟩ right) c'
            (hsigned.trans hright)
        · rw [hnone]
          refine .stuck _ ((stuck_complain _ _).after hsigned ?_)
          simpa using ⟨Token.isInner_of_kind hname,
            ComparatorSign.isInner ⟨_, comparator, hsign⟩⟩
  · rw [hexpect]
    exact .stuck _ (stuck_complain c _)

/-- The terms that follow a condition; what is read is joined to its left. -/
theorem joined_outcome (left : Condition) (c : Cursor) :
    Outcome joinedTokens (joinedCondition left) c (joined left c) := by
  fun_induction joined left c with
  | case1 left c hnone => exact .read [] c (Cursor.Passes.refl c)
  | case2 left c connective hword c' hterm =>
      have hpass := Cursor.passes_advance (kind_ne_eof_of_connective hword)
      have hstuck := (hterm ▸ term_outcome c.advance).stuck_of_none
      refine .stuck _ (hstuck.after hpass ?_)
      simpa using ConnectiveWord.isInner ⟨_, connective, hword⟩
  | case3 left c connective hword right c' hterm ih =>
      have hpass := Cursor.passes_advance (kind_ne_eof_of_connective hword)
      have hinner := ConnectiveWord.isInner ⟨_, connective, hword⟩
      have houtcome := term_outcome c.advance
      rw [hterm] at houtcome
      cases houtcome with
      | read tree c' passes =>
          have hterms := hpass.trans passes
          generalize hrest : joined (.logical left connective tree.condition) c' =
            rest at ih
          cases ih with
          | read others c'' others_pass =>
              let other : ConnectiveWord × TermTree := (⟨_, connective, hword⟩, tree)
              exact Outcome.read (other :: others) c'' (hterms.trans others_pass)
          | stuck c'' stuck =>
              refine .stuck _ (stuck.after hterms ?_)
              simpa using ⟨hinner, tree.areInner⟩

theorem condition_outcome (c : Cursor) :
    Outcome ConditionTree.tokens ConditionTree.condition c (condition c) := by
  rw [condition]
  have hfirst := term_outcome c
  generalize term c = result at hfirst
  cases hfirst with
  | stuck c' stuck => exact .stuck c' stuck
  | read first c₁ first_pass =>
      dsimp only
      have hothers := joined_outcome first.condition c₁
      generalize joined first.condition c₁ = result at hothers
      cases hothers with
      | read others c₂ others_pass =>
          exact Outcome.read (ConditionTree.mk first others) c₂
            (first_pass.trans others_pass)
      | stuck c₂ stuck => exact .stuck c₂ (stuck.after first_pass first.areInner)

/-- One or more operands between commas. -/
theorem arguments_outcome (c : Cursor) :
    Outcome OperandsTree.tokens OperandsTree.operands c (arguments c) := by
  fun_induction arguments c with
  | case1 c c₁ hnone =>
      obtain rfl := eq_of_operand_none hnone
      exact .stuck _ (stuck_complain c₁ _)
  | case2 c first c₁ hfirst c₂ hcomma =>
      obtain ⟨tree, rfl, hpass⟩ := exists_of_operand hfirst
      obtain rfl := Cursor.eq_of_eat_none hcomma
      exact Outcome.read (OperandsTree.mk tree []) c₂ hpass
  | case3 c first c₁ hfirst comma c₂ hcomma c₃ hothers ih =>
      obtain ⟨tree, rfl, hpass⟩ := exists_of_operand hfirst
      obtain ⟨hkind, hcommaPass⟩ := Cursor.passes_of_eat hcomma (by decide)
      have hstuck := (hothers ▸ ih).stuck_of_none
      refine .stuck _ (hstuck.after (hpass.trans hcommaPass) ?_)
      simpa using ⟨tree.isInner, Token.isInner_of_kind hkind⟩
  | case4 c first c₁ hfirst comma c₂ hcomma others c₃ hothers ih =>
      obtain ⟨tree, rfl, hpass⟩ := exists_of_operand hfirst
      obtain ⟨hkind, hcommaPass⟩ := Cursor.passes_of_eat hcomma (by decide)
      rw [hothers] at ih
      cases ih with
      | read more c' more_pass =>
          let other : Terminal .comma × OperandTree := (⟨comma, hkind⟩, more.first)
          exact Outcome.read (OperandsTree.mk tree (other :: more.others)) c₃
            ((hpass.trans hcommaPass).trans more_pass)

/-- The parenthesis that closes the arguments of a command. -/
theorem closed_outcome (name : String) (arguments : List Operand) (c : Cursor) :
    Outcome (fun closing : Terminal .rightParen => [closing.token])
      (fun _ => Command.mk name arguments) c (closed name arguments c) := by
  rw [closed]
  rcases c.expect_cases (by decide : TokenKind.rightParen ≠ .eof)
    .unterminatedArguments with ⟨hkind, hexpect, hpass⟩ | ⟨-, hexpect⟩
  · rw [hexpect]
    exact Outcome.read (Terminal.mk c.current hkind) c.advance hpass
  · rw [hexpect]
    exact .stuck _ (stuck_complain c _)

/-- The operands of a command from behind the opening parenthesis on. -/
theorem command_arguments_outcome (name : Terminal .identifier)
    (opening : Terminal .leftParen) {c c₁ : Cursor}
    (hpass : c.Passes [name.token, opening.token] c₁) :
    Outcome CommandTree.tokens CommandTree.command c
      (if c₁.isAt .rightParen then closed name.token.text [] c₁
        else
          match arguments c₁ with
          | (none, c) => (none, c)
          | (some operands, c) => closed name.token.text operands c) := by
  have hinner : AreInner [name.token, opening.token] := by
    simpa using
      ⟨Token.isInner_of_kind name.kind_eq, Token.isInner_of_kind opening.kind_eq⟩
  split
  · have hclosed := closed_outcome name.token.text [] c₁
    generalize closed name.token.text [] c₁ = result at hclosed
    cases hclosed with
    | read closing c₂ closing_pass =>
        exact Outcome.read
          (CommandTree.mk name (some ⟨opening, none, closing⟩)) c₂
          (hpass.trans closing_pass)
    | stuck c₂ stuck => exact .stuck c₂ (stuck.after hpass hinner)
  · have harguments := arguments_outcome c₁
    generalize arguments c₁ = result at harguments
    cases harguments with
    | stuck c₂ stuck => exact .stuck c₂ (stuck.after hpass hinner)
    | read operands c₂ operands_pass =>
        dsimp only
        have hclosed := closed_outcome name.token.text operands.operands c₂
        generalize closed name.token.text operands.operands c₂ = result at hclosed
        cases hclosed with
        | read closing c₃ closing_pass =>
            exact Outcome.read
              (CommandTree.mk name (some ⟨opening, some operands, closing⟩)) c₃
              ((hpass.trans operands_pass).trans closing_pass)
        | stuck c₃ stuck =>
            exact .stuck c₃ (stuck.after (hpass.trans operands_pass)
              (areInner_append.mpr ⟨hinner, operands.areInner⟩))

theorem command_outcome (c : Cursor) :
    Outcome CommandTree.tokens CommandTree.command c (command c) := by
  rw [command]
  rcases c.expect_cases (by decide : TokenKind.identifier ≠ .eof)
    .expectedCommand with ⟨hname, hexpect, hpass⟩ | ⟨-, hexpect⟩
  · rw [hexpect]
    dsimp only
    rcases c.advance.eat_cases (by decide : TokenKind.leftParen ≠ .eof) with
      ⟨hopening, heat, hopeningPass⟩ | ⟨-, heat⟩
    · rw [heat]
      exact command_arguments_outcome ⟨c.current, hname⟩ ⟨_, hopening⟩
        (hpass.trans hopeningPass)
    · rw [heat]
      exact Outcome.read (CommandTree.mk ⟨c.current, hname⟩ none) c.advance hpass
  · rw [hexpect]
    exact .stuck _ (stuck_complain c _)

/-! ## Statements -/

/-- The two ways of reading a statement.  Unlike a part of one it may get stuck
behind an `IF` or an `ELSE`, but not in front of one. -/
inductive StatementOutcome (c : Cursor) : Option Statement × Cursor → Prop
  | read (tree : StatementTree) (c' : Cursor) (passes : c.Passes tree.tokens c') :
    StatementOutcome c (some tree.statement, c')
  | stuck (used : List Token) (remark : Remark) (c' : Cursor)
      (passes : c.Passes used c') (one_line : ∀ token ∈ used, token.kind ≠ .newline)
      (inner : AreInner used.tail)
      (started : used = [] → c.current.kind ≠ .ifWord ∧ c.current.kind ≠ .elseWord) :
    StatementOutcome c (none, c'.complain remark)

/-- A part that gets stuck behind the first token of a statement. -/
theorem StatementOutcome.of_stuck {c c₁ c₂ : Cursor} {first : Token}
    {used : List Token} (h : Stuck c₁ c₂) (hused : c.Passes (first :: used) c₁)
    (hfirst : first.kind ≠ .newline) (hinner : AreInner used) :
    StatementOutcome c (none, c₂) := by
  cases h with
  | intro more remark c' passes inner =>
      have hmore : AreInner (used ++ more) := areInner_append.mpr ⟨hinner, inner⟩
      refine .stuck _ remark c' (hused.trans passes) ?_ hmore ?_
      · intro token htoken
        rcases List.mem_cons.mp htoken with rfl | htoken
        · exact hfirst
        · exact (hmore token htoken).1
      · intro hnil
        simp at hnil

theorem conditional_outcome {c : Cursor} (h : c.current.kind = .ifWord) :
    StatementOutcome c (conditional c) := by
  have hif : c.Passes [c.current] c.advance := Cursor.passes_advance (by simp [h])
  have hline : c.current.kind ≠ .newline := by simp [h]
  rw [conditional]
  have hcondition := condition_outcome c.advance
  generalize condition c.advance = result at hcondition
  cases hcondition with
  | stuck c₁ stuck => exact .of_stuck stuck hif hline areInner_nil
  | read tree c₁ tree_pass =>
      dsimp only
      have hread := hif.trans tree_pass
      rcases c₁.expect_cases (by decide : TokenKind.thenWord ≠ .eof)
        .expectedThen with ⟨hthen, hexpect, hthenPass⟩ | ⟨-, hexpect⟩
      · rw [hexpect]
        dsimp only
        have hmiddle := hread.trans hthenPass
        have hcommand := command_outcome c₁.advance
        generalize command c₁.advance = result at hcommand
        cases hcommand with
        | stuck c₂ stuck =>
            refine .of_stuck stuck hmiddle hline ?_
            simpa using ⟨tree.areInner, Token.isInner_of_kind hthen⟩
        | read command c₂ command_pass =>
            refine StatementOutcome.read
              (.conditional ⟨c.current, h⟩ tree ⟨_, hthen⟩ command) c₂ ?_
            simpa [StatementTree.tokens] using hmiddle.trans command_pass
      · rw [hexpect]
        exact .of_stuck (stuck_complain c₁ _) hread hline tree.areInner

theorem fallback_outcome {c : Cursor} (h : c.current.kind = .elseWord) :
    StatementOutcome c (fallback c) := by
  have helse : c.Passes [c.current] c.advance := Cursor.passes_advance (by simp [h])
  have hline : c.current.kind ≠ .newline := by simp [h]
  rw [fallback]
  have hcommand := command_outcome c.advance
  generalize command c.advance = result at hcommand
  cases hcommand with
  | stuck c₁ stuck => exact .of_stuck stuck helse hline areInner_nil
  | read command c₁ command_pass =>
      exact StatementOutcome.read (.fallback ⟨c.current, h⟩ command) c₁
        (helse.trans command_pass)

theorem bare_outcome {c : Cursor} (h : c.current.kind = .identifier) :
    StatementOutcome c (bare c) := by
  rw [bare]
  have hcommand := command_outcome c
  generalize command c = result at hcommand
  cases hcommand with
  | stuck c₁ stuck =>
      obtain ⟨used, remark, c₂, passes, inner⟩ := stuck
      refine .stuck used remark c₂ passes ?_ ?_ (fun _ => by simp [h])
      · intro token htoken
        exact (inner token htoken).1
      · intro token htoken
        exact inner token (List.mem_of_mem_tail htoken)
  | read command c₁ command_pass =>
      have hfirst : c.current = command.name.token := by
        exact Cursor.current_of_pending command_pass.pending
      rw [hfirst]
      exact StatementOutcome.read (.bare command) c₁ command_pass

theorem statement_outcome (c : Cursor) : StatementOutcome c (statement c) := by
  rw [statement]
  split
  · rename_i h
    exact conditional_outcome (Cursor.isAt_iff.mp h)
  split
  · rename_i h
    exact fallback_outcome (Cursor.isAt_iff.mp h)
  split
  · rename_i h
    exact bare_outcome (Cursor.isAt_iff.mp h)
  · rename_i hif helse _
    exact .stuck [] _ c (Cursor.Passes.refl c) (by simp) areInner_nil
      fun _ => ⟨mt Cursor.isAt_iff.mpr hif, mt Cursor.isAt_iff.mpr helse⟩

end Grammar

end Autopilot
