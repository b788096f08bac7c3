import Autopilot.Proofs.Grammar.Acceptance
import Autopilot.Proofs.Grammar.Spelled

/-!
# Where parentheses are opened

In a derivation no parenthesis is opened right behind a connective.  In the spelling of
a script that has a joined condition on the right of another one there is such a place,
so that it has no derivation.
-/

namespace Autopilot

open Lexeme

/-- Somewhere a parenthesis is opened right behind a connective. -/
def OpensJoined (tokens : List (TokenKind × String)) : Prop :=
  ∃ front connective back, tokens =
    front ++ (Connective.kind connective, connective.word) :: (.leftParen, "(") :: back

theorem OpensJoined.append_left {tokens : List (TokenKind × String)}
    (h : OpensJoined tokens) (before : List (TokenKind × String)) :
    OpensJoined (before ++ tokens) := by
  obtain ⟨front, connective, back, rfl⟩ := h
  exact ⟨before ++ front, connective, back, (List.append_assoc ..).symm⟩

theorem OpensJoined.append_right {tokens : List (TokenKind × String)}
    (h : OpensJoined tokens) (behind : List (TokenKind × String)) :
    OpensJoined (tokens ++ behind) := by
  obtain ⟨front, connective, back, rfl⟩ := h
  exact ⟨front, connective, back ++ behind, by simp⟩

theorem Condition.leftNested_of_not_isLogical {condition : Condition}
    (h : condition.isLogical = false) : condition.LeftNested := by
  cases condition with
  | logical left connective right => cases h
  | _ => trivial

theorem Condition.opensJoined {condition : Condition} (h : ¬ condition.LeftNested) :
    OpensJoined (spelling condition.lexemes) := by
  induction condition with
  | comparison left comparator right => exact absurd trivial h
  | query name => exact absurd trivial h
  | logical left connective right ihl ihr =>
      simp only [lexemes, spelling_append, spelling_cons, spelled?_space,
        spelled?_connective, Option.toList_none, Option.toList_some, List.nil_append,
        List.cons_append]
      by_cases hright : right.isLogical = true
      · rw [if_pos hright, spelling_cons, spelled?_opening]
        exact ⟨_, connective, _, rfl⟩
      · have hterm := Bool.eq_false_iff.mpr hright
        have hleft : ¬ left.LeftNested := by
          intro hleft
          exact h ⟨hleft, leftNested_of_not_isLogical hterm, hterm⟩
        exact (ihl hleft).append_right _

theorem Statement.opensJoined {statement : Statement}
    (h : ¬ statement.trigger.LeftNested) : OpensJoined (spelling statement.lexemes) := by
  obtain ⟨trigger, command, line⟩ := statement
  cases trigger with
  | condition condition =>
      have hcondition := Condition.opensJoined h
      simp only [lexemes, spelling_cons, spelling_append]
      exact ((hcondition.append_right _).append_left _).append_left _
  | fallback => exact absurd trivial h
  | always => exact absurd trivial h

/-- A script with a joined condition on the right of another one opens a parenthesis
right behind a connective. -/
theorem Script.opensJoined {script : Script} (h : ¬ script.LeftNested) :
    OpensJoined (spelling script.lexemes) := by
  obtain ⟨statements⟩ := script
  induction statements with
  | nil => exact absurd (fun _ hmem => absurd hmem List.not_mem_nil) h
  | cons statement statements ih =>
      have hcons : spelling (Script.mk (statement :: statements)).lexemes =
          spelling statement.lexemes ++
            ([(.newline, "\n")] ++ spelling (Script.mk statements).lexemes) := by
        simp [lexemes]
      rw [hcons]
      by_cases hfirst : statement.trigger.LeftNested
      · have hothers : ¬ (Script.mk statements).LeftNested := by
          intro hothers
          apply h
          intro other hother
          rcases List.mem_cons.mp hother with rfl | hother
          · exact hfirst
          · exact hothers other hother
        exact ((ih hothers).append_left _).append_left _
      · exact (Statement.opensJoined hfirst).append_right _

/-! ## In derivations -/

/-- No parenthesis is opened in front or right behind a connective. -/
structure OpensApart (tokens : List Token) : Prop where
  not_joined : ¬ OpensJoined (tokens.map Token.spelled)
  not_first : ∀ token ∈ tokens.head?, token.kind ≠ .leftParen

theorem OpensApart.nil : OpensApart [] := by
  constructor
  · rintro ⟨front, connective, back, hsplit⟩
    simp at hsplit
  · simp

theorem OpensApart.append {front back : List Token} (hfront : OpensApart front)
    (hback : OpensApart back) : OpensApart (front ++ back) := by
  constructor
  · rintro ⟨before, connective, behind, hsplit⟩
    rw [List.map_append] at hsplit
    rcases List.append_eq_append_iff.mp hsplit with
      ⟨inside, -, hinside⟩ | ⟨inside, hbefore, hinside⟩
    · exact hback.not_joined ⟨inside, connective, behind, hinside⟩
    · rcases inside with _ | ⟨first, _ | ⟨second, more⟩⟩
      · exact hback.not_joined ⟨[], connective, behind, hinside.symm⟩
      · -- The connective is the last token in front, the parenthesis the first behind.
        obtain ⟨opening, others, rfl, hspelled, -⟩ :=
          List.map_eq_cons_iff.mp (List.cons.inj hinside).2.symm
        exact hback.not_first opening rfl (congrArg Prod.fst hspelled)
      · obtain ⟨rfl, hmore⟩ := List.cons.inj hinside
        obtain ⟨rfl, -⟩ := List.cons.inj hmore
        exact hfront.not_joined ⟨before, connective, more, hbefore⟩
  · cases front with
    | nil => exact hback.not_first
    | cons first front => exact hfront.not_first

theorem opensApart_of_no_paren {tokens : List Token}
    (h : ∀ token ∈ tokens, token.kind ≠ .leftParen) : OpensApart tokens := by
  constructor
  · rintro ⟨front, connective, back, hsplit⟩
    have hmem : (TokenKind.leftParen, "(") ∈ tokens.map Token.spelled := by
      rw [hsplit]
      simp
    obtain ⟨token, htoken, hspelled⟩ := List.mem_map.mp hmem
    exact h token htoken (congrArg Prod.fst hspelled)
  · intro token htoken
    exact h token (List.mem_of_head? htoken)

theorem opensApart_of_no_connective {tokens : List Token}
    (h : ∀ token ∈ tokens, Connective.ofKind? token.kind = none)
    (hfirst : ∀ token ∈ tokens.head?, token.kind ≠ .leftParen) : OpensApart tokens := by
  refine ⟨?_, hfirst⟩
  rintro ⟨front, connective, back, hsplit⟩
  have hmem : (connective.kind, connective.word) ∈ tokens.map Token.spelled := by
    rw [hsplit]
    simp
  obtain ⟨token, htoken, hspelled⟩ := List.mem_map.mp hmem
  have hkind : token.kind = connective.kind := congrArg Prod.fst hspelled
  have hnone := h token htoken
  rw [hkind, ofKind?_connective_kind] at hnone
  cases hnone

theorem ComparatorSign.kind_ne (sign : ComparatorSign) : sign.token.kind ≠ .leftParen := by
  have h := sign.kind_eq
  intro hkind
  rw [hkind] at h
  cases h

theorem ConnectiveWord.kind_ne (word : ConnectiveWord) : word.token.kind ≠ .leftParen := by
  have h := word.kind_eq
  intro hkind
  rw [hkind] at h
  cases h

theorem TermTree.kind_ne (term : TermTree) :
    ∀ token ∈ term.tokens, token.kind ≠ .leftParen := by
  intro token htoken
  cases term with
  | query name =>
      obtain rfl := List.mem_singleton.mp htoken
      simp [name.kind_eq]
  | comparison left sign right =>
      simp only [tokens, List.mem_cons, List.not_mem_nil, or_false] at htoken
      rcases htoken with rfl | rfl | rfl
      · simp [left.kind_eq]
      · exact sign.kind_ne
      · rcases right.kind_token with h | h <;> simp [h]

theorem ConditionTree.kind_ne (condition : ConditionTree) :
    ∀ token ∈ condition.tokens, token.kind ≠ .leftParen := by
  intro token htoken
  rcases List.mem_append.mp htoken with htoken | htoken
  · exact condition.first.kind_ne token htoken
  · obtain ⟨⟨word, term⟩, -, hmem⟩ := List.mem_flatMap.mp htoken
    rcases List.mem_cons.mp hmem with rfl | hmem
    · exact word.kind_ne
    · exact term.kind_ne token hmem

theorem OperandTree.ofKind?_connective (operand : OperandTree) :
    Connective.ofKind? operand.token.kind = none := by
  rcases operand.kind_token with h | h <;> rw [h] <;> rfl

theorem Terminal.ofKind?_connective {kind : TokenKind} (leaf : Terminal kind)
    (h : Connective.ofKind? kind = none) : Connective.ofKind? leaf.token.kind = none := by
  rw [leaf.kind_eq, h]

theorem ArgumentsTree.ofKind?_connective (arguments : ArgumentsTree) :
    ∀ token ∈ arguments.tokens, Connective.ofKind? token.kind = none := by
  obtain ⟨opening, operands, closing⟩ := arguments
  intro token htoken
  rcases List.mem_cons.mp htoken with rfl | htoken
  · exact opening.ofKind?_connective rfl
  · rcases List.mem_append.mp htoken with htoken | htoken
    · cases operands with
      | none => cases htoken
      | some operands =>
          rcases List.mem_cons.mp htoken with rfl | htoken
          · exact operands.first.ofKind?_connective
          · obtain ⟨⟨comma, operand⟩, -, hmem⟩ := List.mem_flatMap.mp htoken
            simp only [List.mem_cons, List.not_mem_nil, or_false] at hmem
            rcases hmem with rfl | rfl
            · exact comma.ofKind?_connective rfl
            · exact operand.ofKind?_connective
    · obtain rfl := List.mem_singleton.mp htoken
      exact closing.ofKind?_connective rfl

theorem CommandTree.ofKind?_connective (command : CommandTree) :
    ∀ token ∈ command.tokens, Connective.ofKind? token.kind = none := by
  obtain ⟨name, arguments⟩ := command
  intro token htoken
  rcases List.mem_cons.mp htoken with rfl | htoken
  · exact name.ofKind?_connective rfl
  · cases arguments with
    | none => cases htoken
    | some arguments => exact arguments.ofKind?_connective token htoken

theorem CommandTree.opensApart (command : CommandTree) : OpensApart command.tokens := by
  apply opensApart_of_no_connective command.ofKind?_connective
  intro token htoken
  obtain rfl : command.name.token = token := by simpa [tokens] using htoken
  simp [command.name.kind_eq]

theorem StatementTree.opensApart (statement : StatementTree) :
    OpensApart statement.tokens := by
  cases statement with
  | conditional opening condition middle command =>
      have hfront : OpensApart (opening.token :: (condition.tokens ++ [middle.token])) := by
        apply opensApart_of_no_paren
        intro token htoken
        simp only [List.mem_cons, List.mem_append, List.not_mem_nil, or_false] at htoken
        rcases htoken with rfl | htoken | rfl
        · simp [opening.kind_eq]
        · exact condition.kind_ne token htoken
        · simp [middle.kind_eq]
      have hwhole := hfront.append command.opensApart
      rwa [List.cons_append, List.append_assoc] at hwhole
  | fallback opening command =>
      have hfront : OpensApart [opening.token] := by
        apply opensApart_of_no_paren
        intro token htoken
        obtain rfl := List.mem_singleton.mp htoken
        simp [opening.kind_eq]
      exact hfront.append command.opensApart
  | bare command => exact command.opensApart

theorem opensApart_separators (separators : List (Terminal .newline)) :
    OpensApart (separators.map (·.token)) := by
  apply opensApart_of_no_paren
  intro token htoken
  obtain ⟨separator, -, rfl⟩ := List.mem_map.mp htoken
  simp [separator.kind_eq]

theorem opensApart_statementTokens
    (statements : List (StatementTree × List (Terminal .newline))) :
    OpensApart (statementTokens statements) := by
  induction statements with
  | nil => exact .nil
  | cons first statements ih =>
      obtain ⟨statement, separators⟩ := first
      exact (statement.opensApart.append (opensApart_separators separators)).append ih

/-- In a derivation no parenthesis is opened right behind a connective. -/
theorem ScriptTree.opensApart (script : ScriptTree) : OpensApart script.tokens := by
  have hending : OpensApart [script.ending.token] := by
    apply opensApart_of_no_paren
    intro token htoken
    obtain rfl := List.mem_singleton.mp htoken
    simp [script.ending.kind_eq]
  exact ((opensApart_separators script.separators).append
    (opensApart_statementTokens script.statements)).append hending

end Autopilot
