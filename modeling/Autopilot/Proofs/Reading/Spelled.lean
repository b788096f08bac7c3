import Autopilot.Proofs.Grammar.Parenthesis
import Autopilot.Proofs.Lexer.Spelled
import Autopilot.Proofs.Reading.Segments

/-!
# What is read from a text

The statements that are read from a text, whatever is wrong with it, are those of a
well-written script: names are words that are no keywords, numbers are numerals, and
conditions are nested to the left.  Each of them stands on a line of the text.
-/

namespace Autopilot

/-! ## Derivations with spelled tokens -/

theorem Terminal.isName {name : Terminal .identifier} (h : name.token.IsSpelled) :
    IsName name.token.text := by
  rw [Token.IsSpelled, name.kind_eq] at h
  exact h

theorem Terminal.isNumeral {digits : Terminal .number} (h : digits.token.IsSpelled) :
    IsNumeral digits.token.text.toList := by
  rw [Token.IsSpelled, digits.kind_eq] at h
  exact h

theorem OperandTree.isSpelled_operand {operand : OperandTree}
    (h : operand.token.IsSpelled) : operand.operand.IsSpelled := by
  cases operand with
  | name word => exact word.isName h
  | number digits => exact digits.isNumeral h

theorem TermTree.isSpelled_condition {term : TermTree}
    (h : ∀ token ∈ term.tokens, token.IsSpelled) : term.condition.IsSpelled := by
  cases term with
  | query name => exact name.isName (h _ (List.mem_singleton_self _))
  | comparison left sign right =>
      have hleft := h left.token (by simp [tokens])
      have hright := h right.token (by simp [tokens])
      exact ⟨left.isName hleft, right.isSpelled_operand hright⟩

theorem TermTree.isLogical_condition (term : TermTree) :
    term.condition.isLogical = false := by
  cases term <;> rfl

theorem isSpelled_joinedCondition {left : Condition}
    {others : List (ConnectiveWord × TermTree)} (hleft : left.IsSpelled)
    (hothers : ∀ token ∈ joinedTokens others, token.IsSpelled) :
    (joinedCondition left others).IsSpelled := by
  induction others generalizing left with
  | nil => exact hleft
  | cons other others ih =>
      obtain ⟨word, term⟩ := other
      obtain ⟨hfirst, hrest⟩ := List.forall_mem_append.mp hothers
      have hterm := term.isSpelled_condition (List.forall_mem_cons.mp hfirst).2
      exact ih ⟨hleft, hterm⟩ hrest

/-- Terms that follow a condition are joined to it from the right, one by one. -/
theorem leftNested_joinedCondition {left : Condition} (hleft : left.LeftNested)
    (others : List (ConnectiveWord × TermTree)) :
    (joinedCondition left others).LeftNested := by
  induction others generalizing left with
  | nil => exact hleft
  | cons other others ih =>
      obtain ⟨word, term⟩ := other
      have hterm := term.isLogical_condition
      exact ih ⟨hleft, Condition.leftNested_of_not_isLogical hterm, hterm⟩

theorem ConditionTree.isSpelled_condition {condition : ConditionTree}
    (h : ∀ token ∈ condition.tokens, token.IsSpelled) :
    condition.condition.IsSpelled := by
  obtain ⟨hfirst, hothers⟩ := List.forall_mem_append.mp h
  exact isSpelled_joinedCondition (condition.first.isSpelled_condition hfirst) hothers

theorem ConditionTree.leftNested_condition (condition : ConditionTree) :
    condition.condition.LeftNested := by
  apply leftNested_joinedCondition
  exact Condition.leftNested_of_not_isLogical condition.first.isLogical_condition

theorem OperandsTree.isSpelled_of_mem {operands : OperandsTree}
    (h : ∀ token ∈ operands.tokens, token.IsSpelled) :
    ∀ operand ∈ operands.operands, operand.IsSpelled := by
  obtain ⟨hfirst, hothers⟩ := List.forall_mem_cons.mp h
  intro operand hmem
  rcases List.mem_cons.mp hmem with rfl | hmem
  · exact operands.first.isSpelled_operand hfirst
  · obtain ⟨⟨comma, tree⟩, hother, rfl⟩ := List.mem_map.mp hmem
    apply tree.isSpelled_operand
    apply hothers
    exact List.mem_flatMap.mpr ⟨_, hother, by simp⟩

theorem CommandTree.isSpelled_command {command : CommandTree}
    (h : ∀ token ∈ command.tokens, token.IsSpelled) : command.command.IsSpelled := by
  obtain ⟨name, arguments⟩ := command
  obtain ⟨hname, harguments⟩ := List.forall_mem_cons.mp h
  refine ⟨name.isName hname, ?_⟩
  rcases arguments with _ | ⟨opening, _ | operands, closing⟩
  · exact List.forall_mem_nil _
  · exact List.forall_mem_nil _
  · apply operands.isSpelled_of_mem
    intro token htoken
    apply harguments
    exact List.mem_cons_of_mem _ (List.mem_append_left _ htoken)

/-! ## Statements -/

/-- What is known of a statement that is read from a text. -/
structure Statement.IsRead (statement : Statement) : Prop where
  spelled : statement.IsSpelled
  leftNested : statement.trigger.LeftNested
  line_pos : 1 ≤ statement.line

theorem StatementTree.isRead {tree : StatementTree}
    (h : ∀ token ∈ tree.tokens, token.IsSpelled) : tree.statement.IsRead := by
  constructor
  · cases tree with
    | conditional opening condition middle command =>
        obtain ⟨hcondition, hbehind⟩ :=
          List.forall_mem_append.mp (List.forall_mem_cons.mp h).2
        have hcommand := (List.forall_mem_cons.mp hbehind).2
        exact ⟨condition.isSpelled_condition hcondition,
          command.isSpelled_command hcommand⟩
    | fallback opening command =>
        have hcommand := (List.forall_mem_cons.mp h).2
        exact ⟨trivial, command.isSpelled_command hcommand⟩
    | bare command => exact ⟨trivial, command.isSpelled_command h⟩
  · cases tree with
    | conditional opening condition middle command =>
        exact condition.leftNested_condition
    | fallback opening command => trivial
    | bare command => trivial
  · exact Int.ofNat_le.mpr tree.firstToken.position.line_pos

theorem Reading.tokens_eq_of_ofText {text : String} {reading : Reading}
    (h : Reading.ofText text = .ok reading) : reading.tokens = (tokenize text).1 := by
  simp only [ofText, bind, Except.bind] at h
  split at h
  · cases h
  · obtain rfl := Except.ok.inj h
    rfl

/-- The statements of a text are well written, whatever else is in the text. -/
theorem Reading.isRead_of_mem {text : String} {reading : Reading}
    (h : Reading.ofText text = .ok reading) :
    ∀ statement ∈ reading.script.statements, statement.IsRead := by
  obtain ⟨reading', segments, ending, hread, hcut, -⟩ := exists_isCut text
  obtain rfl : reading = reading' := Except.ok.inj (h.symm.trans hread)
  have hspelled : ∀ token ∈ reading.tokens, token.IsSpelled := by
    rw [tokens_eq_of_ofText h]
    exact isSpelled_of_mem_tokenize
  rw [hcut.statements]
  intro statement hmem
  obtain ⟨segment, hsegment, hstatement⟩ := List.mem_filterMap.mp hmem
  cases segment with
  | statement tree =>
      obtain rfl : tree.statement = statement := Option.some.inj hstatement
      apply tree.isRead
      intro token htoken
      apply hspelled
      rw [hcut.tokens]
      exact List.mem_append_left _ (List.mem_flatMap.mpr ⟨_, hsegment, htoken⟩)
  | _ => cases hstatement

end Autopilot
