import Autopilot.Proofs.Cursor.Simulation
import Autopilot.Proofs.Grammar.Equations
import Autopilot.Proofs.Grammar.Segment

/-!
# Reading at cursors that behave alike

At cursors that behave alike every part of the grammar is read alike, and so are the
statements of a script, with their lines moved.  Where the first script ends and the
second one goes on, the latter has just reached a line break.
-/

namespace Autopilot

/-- A statement some lines further down. -/
def Statement.lowered (lines : Nat) (statement : Statement) : Statement :=
  { statement with line := statement.line + lines }

theorem Statement.lowered_zero : Statement.lowered 0 = id := by
  funext statement
  simp [lowered]

namespace Grammar

open Cursor

/-- The same was read, and the cursors are still alike. -/
structure Alike {α : Type} (R : Cursor → Cursor → Prop)
    (result result' : α × Cursor) : Prop where
  value : result'.1 = result.1
  cursor : R result.2 result'.2

theorem Alike.cases {α : Type} {R : Cursor → Cursor → Prop}
    {result result' : Option α × Cursor} (h : Alike R result result') :
    (∃ c c', result = (none, c) ∧ result' = (none, c') ∧ R c c') ∨
    (∃ value c c', result = (some value, c) ∧ result' = (some value, c') ∧ R c c') := by
  obtain ⟨read, c⟩ := result
  obtain ⟨read', c'⟩ := result'
  obtain ⟨hvalue, hcursor⟩ := h
  obtain rfl : read' = read := hvalue
  cases read' with
  | none => exact Or.inl ⟨c, c', rfl, rfl, hcursor⟩
  | some value => exact Or.inr ⟨value, c, c', rfl, rfl, hcursor⟩

section Simulation

variable {R : Cursor → Cursor → Prop} {lines : Nat} {c c' : Cursor}

theorem comparator_eq (hR : Simulates R lines) (h : R c c') :
    Comparator.ofKind? c'.current.kind = Comparator.ofKind? c.current.kind :=
  hR.kind_congr h Comparator.ofKind? rfl

theorem connective_eq (hR : Simulates R lines) (h : R c c') :
    Connective.ofKind? c'.current.kind = Connective.ofKind? c.current.kind :=
  hR.kind_congr h Connective.ofKind? rfl

theorem operand_alike (hR : Simulates R lines) (h : R c c') :
    Alike R (operand c) (operand c') := by
  have hname := hR.isAt_eq h (by decide : TokenKind.identifier ≠ .eof) (by decide)
  have hnumber := hR.isAt_eq h (by decide : TokenKind.number ≠ .eof) (by decide)
  rw [operand, operand, hname, hnumber]
  by_cases hatName : c.isAt .identifier = true
  · have hend : c.current.kind ≠ .eof := by simp [isAt_iff.mp hatName]
    rw [if_pos hatName, if_pos hatName, hR.text h hend]
    exact ⟨rfl, hR.advance h hend⟩
  · by_cases hatNumber : c.isAt .number = true
    · have hend : c.current.kind ≠ .eof := by simp [isAt_iff.mp hatNumber]
      rw [if_neg hatName, if_neg hatName, if_pos hatNumber, if_pos hatNumber,
        hR.text h hend]
      exact ⟨rfl, hR.advance h hend⟩
    · rw [if_neg hatName, if_neg hatName, if_neg hatNumber, if_neg hatNumber]
      exact ⟨rfl, h⟩

theorem term_alike (hR : Simulates R lines) (h : R c c') :
    Alike R (term c) (term c') := by
  rcases hR.expect_cases h (by decide : TokenKind.identifier ≠ .eof) (by decide)
    .expectedCondition with ⟨hkind, hname, hname', hc⟩ | ⟨hname, hname', hc⟩
  · have htext := hR.text h (by simp [hkind])
    rw [term, term, hname, hname']
    dsimp only
    rw [comparator_eq hR hc, htext]
    cases hcomparator : Comparator.ofKind? c.advance.current.kind with
    | none => exact ⟨rfl, hc⟩
    | some comparator =>
        have hsign := hR.advance hc (kind_ne_eof_of_comparator hcomparator)
        rcases (operand_alike hR hsign).cases with
          ⟨c₁, c₁', hoperand, hoperand', hc₁⟩ |
            ⟨right, c₁, c₁', hoperand, hoperand', hc₁⟩
        · rw [hoperand, hoperand']
          exact ⟨rfl, hR.complain hc₁ _⟩
        · rw [hoperand, hoperand']
          exact ⟨rfl, hc₁⟩
  · rw [term, term, hname, hname']
    exact ⟨rfl, hc⟩

theorem joined_alike (hR : Simulates R lines) (left : Condition) (h : R c c') :
    Alike R (joined left c) (joined left c') := by
  fun_induction joined left c generalizing c' with
  | case1 left c hnone =>
      have hnone' := (connective_eq hR h).trans hnone
      rw [joined_of_no_connective hnone']
      exact ⟨rfl, h⟩
  | case2 left c connective hword c₁ hterm =>
      have hword' := (connective_eq hR h).trans hword
      have hc := hR.advance h (kind_ne_eof_of_connective hword)
      rcases (term_alike hR hc).cases with
        ⟨c₂, c₂', hread, hread', hc₂⟩ | ⟨right, c₂, c₂', hread, -, -⟩
      · obtain rfl := (Prod.mk.inj (hterm.symm.trans hread)).2
        rw [joined_of_no_term hword' hread']
        exact ⟨rfl, hc₂⟩
      · simp [hterm] at hread
  | case3 left c connective hword right c₁ hterm ih =>
      have hword' := (connective_eq hR h).trans hword
      have hc := hR.advance h (kind_ne_eof_of_connective hword)
      rcases (term_alike hR hc).cases with
        ⟨c₂, c₂', hread, -, -⟩ | ⟨right', c₂, c₂', hread, hread', hc₂⟩
      · simp [hterm] at hread
      · obtain ⟨hright, rfl⟩ := Prod.mk.inj (hterm.symm.trans hread)
        obtain rfl := Option.some.inj hright
        rw [joined_of_term hword' hread']
        exact ih hc₂

theorem condition_alike (hR : Simulates R lines) (h : R c c') :
    Alike R (condition c) (condition c') := by
  rcases (term_alike hR h).cases with
    ⟨c₁, c₁', hterm, hterm', hc⟩ | ⟨left, c₁, c₁', hterm, hterm', hc⟩
  · rw [condition, condition, hterm, hterm']
    exact ⟨rfl, hc⟩
  · rw [condition, condition, hterm, hterm']
    exact joined_alike hR left hc

theorem arguments_alike (hR : Simulates R lines) (h : R c c') :
    Alike R (arguments c) (arguments c') := by
  induction hlength : c.pending.length using Nat.strongRecOn generalizing c c' with
  | ind n ih =>
      rcases (operand_alike hR h).cases with
        ⟨c₁, c₁', hread, hread', hc₁⟩ | ⟨first, c₁, c₁', hread, hread', hc₁⟩
      · rw [arguments_of_no_operand hread, arguments_of_no_operand hread']
        exact ⟨rfl, hR.complain hc₁ _⟩
      · have hkind := hR.kind_eq_iff hc₁ (by decide : TokenKind.comma ≠ .eof) (by decide)
        by_cases hcomma : c₁.current.kind = .comma
        · have hshorter : c₁.advance.pending.length < n := by
            have := length_pending_operand_lt hread
            have := c₁.length_pending_advance_le
            omega
          obtain ⟨hvalue, hcursor⟩ :=
            ih _ hshorter (hR.advance hc₁ (by simp [hcomma])) rfl
          rw [arguments_of_comma hread hcomma,
            arguments_of_comma hread' (hkind.mpr hcomma), hvalue]
          exact ⟨rfl, hcursor⟩
        · rw [arguments_of_no_comma hread hcomma,
            arguments_of_no_comma hread' (mt hkind.mp hcomma)]
          exact ⟨rfl, hc₁⟩

theorem closed_alike (hR : Simulates R lines) (name : String) (operands : List Operand)
    (h : R c c') : Alike R (closed name operands c) (closed name operands c') := by
  rcases hR.expect_cases h (by decide : TokenKind.rightParen ≠ .eof) (by decide)
    .unterminatedArguments with ⟨-, hclose, hclose', hc⟩ | ⟨hclose, hclose', hc⟩
  · rw [closed, closed, hclose, hclose']
    exact ⟨rfl, hc⟩
  · rw [closed, closed, hclose, hclose']
    exact ⟨rfl, hc⟩

theorem command_alike (hR : Simulates R lines) (h : R c c') :
    Alike R (command c) (command c') := by
  rcases hR.expect_cases h (by decide : TokenKind.identifier ≠ .eof) (by decide)
    .expectedCommand with ⟨hkind, hname, hname', hc⟩ | ⟨hname, hname', hc⟩
  · have htext := hR.text h (by simp [hkind])
    rw [command, command, hname, hname']
    dsimp only
    rw [htext]
    rcases hR.eat_cases hc (by decide : TokenKind.leftParen ≠ .eof) (by decide) with
      ⟨-, hopen, hopen', hinside⟩ | ⟨hopen, hopen'⟩
    · rw [hopen, hopen']
      dsimp only
      rw [hR.isAt_eq hinside (by decide : TokenKind.rightParen ≠ .eof) (by decide)]
      by_cases hclose : c.advance.advance.isAt .rightParen = true
      · rw [if_pos hclose, if_pos hclose]
        exact closed_alike hR _ _ hinside
      · rw [if_neg hclose, if_neg hclose]
        rcases (arguments_alike hR hinside).cases with
          ⟨c₁, c₁', hread, hread', hc₁⟩ | ⟨operands, c₁, c₁', hread, hread', hc₁⟩
        · rw [hread, hread']
          exact ⟨rfl, hc₁⟩
        · rw [hread, hread']
          exact closed_alike hR _ _ hc₁
    · rw [hopen, hopen']
      exact ⟨rfl, hc⟩
  · rw [command, command, hname, hname']
    exact ⟨rfl, hc⟩

/-- The same statement was read, some lines further down. -/
structure StatementAlike (R : Cursor → Cursor → Prop) (lines : Nat)
    (result result' : Option Statement × Cursor) : Prop where
  value : result'.1 = result.1.map (Statement.lowered lines)
  cursor : R result.2 result'.2

theorem conditional_alike (hR : Simulates R lines) (h : R c c')
    (hkind : c.current.kind = .ifWord) :
    StatementAlike R lines (conditional c) (conditional c') := by
  have hend : c.current.kind ≠ .eof := by simp [hkind]
  have hline := hR.line h hend
  rw [conditional, conditional]
  rcases (condition_alike hR (hR.advance h hend)).cases with
    ⟨c₁, c₁', hread, hread', hc₁⟩ | ⟨condition, c₁, c₁', hread, hread', hc₁⟩
  · rw [hread, hread']
    exact ⟨rfl, hc₁⟩
  · rw [hread, hread']
    dsimp only
    rcases hR.expect_cases hc₁ (by decide : TokenKind.thenWord ≠ .eof) (by decide)
      .expectedThen with ⟨-, hthen, hthen', hc₂⟩ | ⟨hthen, hthen', hc₂⟩
    · rw [hthen, hthen']
      dsimp only
      rcases (command_alike hR hc₂).cases with
        ⟨c₃, c₃', hcommand, hcommand', hc₃⟩ |
          ⟨command, c₃, c₃', hcommand, hcommand', hc₃⟩
      · rw [hcommand, hcommand']
        exact ⟨rfl, hc₃⟩
      · rw [hcommand, hcommand', hline]
        exact ⟨rfl, hc₃⟩
    · rw [hthen, hthen']
      exact ⟨rfl, hc₂⟩

theorem fallback_alike (hR : Simulates R lines) (h : R c c')
    (hkind : c.current.kind = .elseWord) :
    StatementAlike R lines (fallback c) (fallback c') := by
  have hend : c.current.kind ≠ .eof := by simp [hkind]
  have hline := hR.line h hend
  rw [fallback, fallback]
  rcases (command_alike hR (hR.advance h hend)).cases with
    ⟨c₁, c₁', hread, hread', hc₁⟩ | ⟨command, c₁, c₁', hread, hread', hc₁⟩
  · rw [hread, hread']
    exact ⟨rfl, hc₁⟩
  · rw [hread, hread', hline]
    exact ⟨rfl, hc₁⟩

theorem bare_alike (hR : Simulates R lines) (h : R c c')
    (hkind : c.current.kind = .identifier) :
    StatementAlike R lines (bare c) (bare c') := by
  have hline := hR.line h (by simp [hkind])
  rw [bare, bare]
  rcases (command_alike hR h).cases with
    ⟨c₁, c₁', hread, hread', hc₁⟩ | ⟨command, c₁, c₁', hread, hread', hc₁⟩
  · rw [hread, hread']
    exact ⟨rfl, hc₁⟩
  · rw [hread, hread', hline]
    exact ⟨rfl, hc₁⟩

theorem statement_alike (hR : Simulates R lines) (h : R c c') :
    StatementAlike R lines (statement c) (statement c') := by
  have hif := hR.isAt_eq h (by decide : TokenKind.ifWord ≠ .eof) (by decide)
  have helse := hR.isAt_eq h (by decide : TokenKind.elseWord ≠ .eof) (by decide)
  have hname := hR.isAt_eq h (by decide : TokenKind.identifier ≠ .eof) (by decide)
  rw [statement, statement, hif, helse, hname]
  by_cases hatIf : c.isAt .ifWord = true
  · rw [if_pos hatIf, if_pos hatIf]
    exact conditional_alike hR h (isAt_iff.mp hatIf)
  · rw [if_neg hatIf, if_neg hatIf]
    by_cases hatElse : c.isAt .elseWord = true
    · rw [if_pos hatElse, if_pos hatElse]
      exact fallback_alike hR h (isAt_iff.mp hatElse)
    · rw [if_neg hatElse, if_neg hatElse]
      by_cases hatName : c.isAt .identifier = true
      · rw [if_pos hatName, if_pos hatName]
        exact bare_alike hR h (isAt_iff.mp hatName)
      · rw [if_neg hatName, if_neg hatName]
        exact ⟨rfl, hR.complain h _⟩

/-! ## From statement to statement -/

/-- The second cursor has come to a line break where the first one is at its end. -/
structure Overruns (R : Cursor → Cursor → Prop) (c c' : Cursor) : Prop where
  alike : R c c'
  ended : c.pending = []
  newline : c'.current.kind = .newline

/-- Two cursors between statements: they stand at the same token, or the first one is
at its end and the second one behind the line breaks that follow. -/
inductive Aligned (R : Cursor → Cursor → Prop) (c c' : Cursor) : Prop
  | together (alike : R c c') (kind : c'.current.kind = c.current.kind)
  | apart (c₁' : Cursor) (overruns : Overruns R c c₁')
      (behind : c' = skipSeparators c₁'.advance)

theorem skipSeparators_of_newline (h : c.current.kind = .newline) :
    skipSeparators c = skipSeparators c.advance := by
  rw [skipSeparators, dif_pos (isAt_iff.mpr h)]

theorem skipSeparators_of_other (h : c.current.kind ≠ .newline) :
    skipSeparators c = c := by
  rw [skipSeparators, dif_neg (mt isAt_iff.mp h)]

/-- Line breaks are passed alike, up to the end of the first cursor. -/
theorem skipSeparators_alike (hR : Simulates R lines) (h : R c c') :
    Aligned R (skipSeparators c) (skipSeparators c') := by
  fun_induction skipSeparators c generalizing c' with
  | case1 c hnewline ih =>
      have hkind := isAt_iff.mp hnewline
      have hkind' : c'.current.kind = .newline := by
        rcases hR.kind h with hsame | ⟨-, hc'⟩
        · rw [hsame, hkind]
        · exact hc'
      rw [skipSeparators_of_newline hkind']
      exact ih (hR.advance h (by simp [hkind]))
  | case2 c hnewline =>
      rcases hR.kind h with hsame | ⟨hend, hnewline'⟩
      · have hline := mt isAt_iff.mpr hnewline
        rw [skipSeparators_of_other (hsame ▸ hline)]
        exact .together h hsame
      · exact .apart c' ⟨h, current_kind_eq_eof_iff.mp hend, hnewline'⟩
          (skipSeparators_of_newline hnewline')

theorem resumes_iff (hR : Simulates R lines) (h : R c c') :
    c'.current.Resumes ↔ c.current.Resumes :=
  or_congr (hR.kind_eq_iff h (by decide) (by decide))
    (hR.kind_eq_iff h (by decide) (by decide))

/-- Tokens are dropped alike, up to the end of the first cursor. -/
theorem discard_alike (hR : Simulates R lines) (h : R c c') :
    R (Recovery.statement.discard c) (Recovery.statement.discard c') ∨
      ∃ c₁', Overruns R (Recovery.statement.discard c) c₁' ∧
        Recovery.statement.discard c' = c₁'.advance := by
  fun_induction Recovery.discard Recovery.statement c generalizing c' with
  | case1 c hend =>
      have hkind := isAt_iff.mp hend
      rcases hR.kind h with hsame | ⟨-, hnewline⟩
      · rw [Recovery.discard_of_eof (hsame.trans hkind)]
        exact Or.inl h
      · exact Or.inr ⟨c', ⟨h, current_kind_eq_eof_iff.mp hkind, hnewline⟩,
          Recovery.discard_of_newline hnewline⟩
  | case2 c hend hbreak =>
      have hnewline := Recovery.isAt_newline_of_statement.mp hbreak
      rcases hR.kind h with hsame | ⟨hkind, -⟩
      · rw [Recovery.discard_of_newline (hsame.trans hnewline)]
        exact Or.inl (hR.advance h (by simp [hnewline]))
      · exact absurd (isAt_iff.mpr hkind) hend
  | case3 c hend hbreak hresume =>
      have hresumes := Recovery.isAtAny_statement_iff.mp hresume
      rw [Recovery.discard_of_resumes ((resumes_iff hR h).mpr hresumes)]
      exact Or.inl h
  | case4 c hend hbreak hresume ih =>
      have hkind := mt isAt_iff.mpr hend
      have hline := mt Recovery.isAt_newline_of_statement.mpr hbreak
      have hresumes := mt Recovery.isAtAny_statement_iff.mpr hresume
      rcases hR.kind h with hsame | ⟨heof, -⟩
      · rw [Recovery.discard_of_other (hsame ▸ hkind) (hsame ▸ hline)
          (mt (resumes_iff hR h).mp hresumes)]
        exact ih (hR.advance h hkind)
      · exact absurd heof hkind

/-- Rounds that start with statements read alike end alike. -/
theorem roundEnd_alike (hR : Simulates R lines)
    {result result' : Option Statement × Cursor}
    (h : StatementAlike R lines result result') :
    Aligned R (roundEnd result) (roundEnd result') := by
  obtain ⟨read, c⟩ := result
  obtain ⟨read', c'⟩ := result'
  obtain ⟨hvalue, hcursor⟩ := h
  obtain rfl : read' = read.map (Statement.lowered lines) := hvalue
  cases read with
  | some statement => exact skipSeparators_alike hR hcursor
  | none =>
      rcases discard_alike hR hcursor with hdiscard | ⟨c₁', hoverruns, hdiscard⟩
      · exact skipSeparators_alike hR hdiscard
      · have hskip := skipSeparators_of_pending_nil hoverruns.ended
        refine .apart c₁' ?_ ?_
        · rw [roundEnd, hskip]
          exact hoverruns
        · rw [Option.map_none, roundEnd, hdiscard]

/-- The statements of two scripts read alike.  Either both scripts are at their end
afterwards, or the second one goes on behind a line break. -/
inductive ReadAlike (R : Cursor → Cursor → Prop) (lines : Nat) (c c' : Cursor) : Prop
  | both (statements : List Statement) (c₁ c₁' : Cursor) (alike : R c₁ c₁')
      (ended : c₁'.pending = [])
      (read : statementList.read c = (.ok statements, c₁))
      (read' : statementList.read c' =
        (.ok (statements.map (Statement.lowered lines)), c₁'))
  | first (statements : List Statement) (c₁ c₁' : Cursor)
      (overruns : Overruns R c₁ c₁')
      (read : statementList.read c = (.ok statements, c₁))
      (read' : statementList.read c' =
        ((statementList.read (skipSeparators c₁'.advance)).1.map
            (statements.map (Statement.lowered lines) ++ ·),
          (statementList.read (skipSeparators c₁'.advance)).2))

/-- One more round in front of statements that are read alike. -/
theorem ReadAlike.cons (hne : c.pending ≠ []) (hne' : c'.pending ≠ [])
    (hstatement : StatementAlike R lines (statement c) (statement c'))
    (h : ReadAlike R lines (roundEnd (statement c)) (roundEnd (statement c'))) :
    ReadAlike R lines c c' := by
  have hfirst : (statement c').1.toList =
      (statement c).1.toList.map (Statement.lowered lines) := by
    rw [hstatement.value]
    cases (statement c).1 <;> rfl
  cases h with
  | both statements c₁ c₁' alike ended read read' =>
      refine .both ((statement c).1.toList ++ statements) c₁ c₁' alike ended ?_ ?_
      · rw [read_statementList hne, read]
        rfl
      · rw [read_statementList hne', read', hfirst, List.map_append]
        rfl
  | first statements c₁ c₁' overruns read read' =>
      refine .first ((statement c).1.toList ++ statements) c₁ c₁' overruns ?_ ?_
      · rw [read_statementList hne, read]
        rfl
      · rw [read_statementList hne', read', hfirst, List.map_append]
        cases (statementList.read (skipSeparators c₁'.advance)).1 with
        | error fault => rfl
        | ok more => simp [Except.map]

theorem read_alike (hR : Simulates R lines) (h : Aligned R c c') :
    ReadAlike R lines c c' := by
  induction hlength : c.pending.length using Nat.strongRecOn generalizing c c' with
  | ind n ih =>
      cases h with
      | apart c₁' overruns behind =>
          refine .first [] c c₁' overruns
            (read_statementList_of_pending_nil overruns.ended) ?_
          rw [behind]
          cases statementList.read (skipSeparators c₁'.advance) with
          | mk read c₂ => cases read <;> rfl
      | together alike kind =>
          by_cases hend : c.pending = []
          · have hend' : c'.pending = [] := by
              rw [← current_kind_eq_eof_iff, kind]
              exact current_kind_eq_eof_iff.mpr hend
            exact .both [] c c' alike hend' (read_statementList_of_pending_nil hend)
              (read_statementList_of_pending_nil hend')
          · have hend' : c'.pending ≠ [] := by
              intro hnil
              rw [← current_kind_eq_eof_iff, kind] at hnil
              exact hend (current_kind_eq_eof_iff.mp hnil)
            have hstatement := statement_alike hR alike
            obtain ⟨segments, haccounts⟩ := accounts_round hend
            have hshorter : (roundEnd (statement c)).pending.length < n := by
              rw [← hlength]
              exact haccounts.length_pending_lt
            have hothers := ih _ hshorter (roundEnd_alike hR hstatement) rfl
            exact .cons hend hend' hstatement hothers

end Simulation

end Grammar

end Autopilot
