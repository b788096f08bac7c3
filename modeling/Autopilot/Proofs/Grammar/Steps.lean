import Autopilot.Grammar
import Autopilot.Proofs.Diagnostic.Stages
import Mathlib.Logic.Relation

/-!
# What a reader does to its cursor

A reader does two things to its cursor: it passes the current token, and it makes a
diagnostic.  Whatever part of the grammar is read, wherever the cursor stands, and however
the reading turns out, the cursor takes such steps only, and every diagnostic is a remark
of the grammar.
-/

namespace Autopilot

namespace Cursor

variable {allowed : Diagnostic → Prop} {c c' : Cursor}

/-- One step of a cursor: a token is passed, or a diagnostic of some kind is made. -/
inductive Moves (allowed : Diagnostic → Prop) (c : Cursor) : Cursor → Prop
  | pass : Moves allowed c c.advance
  | note (d : Diagnostic) (isAllowed : allowed d) : Moves allowed c (c.report d)

/-- A step adds at most one diagnostic, of the kind, to those that are there. -/
theorem Moves.exists_diagnostics (h : Moves allowed c c') :
    ∃ made, c'.diagnostics = c.diagnostics ++ made ∧ ∀ d ∈ made, allowed d := by
  cases h with
  | pass => exact ⟨[], by simp [advance], by simp⟩
  | note d isAllowed =>
      rw [report]
      split
      · exact ⟨[], by simp, by simp⟩
      · exact ⟨[d], rfl, by simpa using isAllowed⟩

/-- Any number of steps of a cursor. -/
def ComesTo (allowed : Diagnostic → Prop) : Cursor → Cursor → Prop :=
  Relation.ReflTransGen (Moves allowed)

namespace ComesTo

theorem refl (c : Cursor) : c.ComesTo allowed c :=
  Relation.ReflTransGen.refl

theorem trans {c₁ : Cursor} (h : c.ComesTo allowed c₁) (h' : c₁.ComesTo allowed c') :
    c.ComesTo allowed c' :=
  Relation.ReflTransGen.trans h h'

theorem advance (c : Cursor) : c.ComesTo allowed c.advance :=
  Relation.ReflTransGen.single .pass

theorem report (c : Cursor) {d : Diagnostic} (h : allowed d) :
    c.ComesTo allowed (c.report d) :=
  Relation.ReflTransGen.single (.note d h)

/-- A reader that gives a value leads to the cursor that it gives with it. -/
theorem of_eq {α : Type} {result : α × Cursor} {value : α}
    (h : c.ComesTo allowed result.2) (hresult : result = (value, c')) :
    c.ComesTo allowed c' := by
  rw [hresult] at h
  exact h

/-- The diagnostics that are there stay, and those that are added are of the kind. -/
theorem exists_diagnostics (h : c.ComesTo allowed c') :
    ∃ made, c'.diagnostics = c.diagnostics ++ made ∧ ∀ d ∈ made, allowed d := by
  induction h with
  | refl => exact ⟨[], by simp, by simp⟩
  | tail _ hmoves ih =>
      obtain ⟨made, hmade, hallowed⟩ := ih
      obtain ⟨last, hlast, hallowed'⟩ := hmoves.exists_diagnostics
      refine ⟨made ++ last, by rw [hlast, hmade, List.append_assoc], ?_⟩
      exact List.forall_mem_append.mpr ⟨hallowed, hallowed'⟩

end ComesTo

theorem comesTo_eat (c : Cursor) (kind : TokenKind) :
    c.ComesTo allowed (c.eat kind).2 := by
  rw [eat]
  split
  · exact .advance c
  · exact .refl c

end Cursor

/-- The cursor takes the steps of a reader of the grammar. -/
abbrev Cursor.IsReadTo : Cursor → Cursor → Prop :=
  ComesTo (Diagnostic.IsMadeIn "parser")

namespace Cursor

theorem isReadTo_complain (c : Cursor) {remark : Remark} (h : remark.IsOf "parser") :
    c.IsReadTo (c.complain remark) :=
  .report c (.placed remark h _ _ _)

theorem isReadTo_expect (c : Cursor) (kind : TokenKind) {remark : Remark}
    (h : remark.IsOf "parser") : c.IsReadTo (c.expect kind remark).2 := by
  rw [expect]
  split
  · exact .advance c
  · exact isReadTo_complain c h

end Cursor

open Cursor

namespace Grammar

theorem isReadTo_operand (c : Cursor) : c.IsReadTo (operand c).2 := by
  rw [operand]
  split
  · exact .advance c
  split
  · exact .advance c
  · exact .refl c

theorem isReadTo_term (c : Cursor) : c.IsReadTo (term c).2 := by
  have hname := isReadTo_expect c .identifier
    (by decide : Remark.expectedCondition.IsOf "parser")
  rw [term]
  generalize c.expect .identifier .expectedCondition = name at hname
  obtain ⟨_ | name, c₁⟩ := name
  · exact hname
  · dsimp only
    cases Comparator.ofKind? c₁.current.kind with
    | none => exact hname
    | some comparator =>
        have hright := (hname.trans (.advance c₁)).trans (isReadTo_operand _)
        dsimp only
        generalize operand c₁.advance = right at hright
        obtain ⟨_ | right, c₂⟩ := right
        · exact hright.trans (isReadTo_complain c₂ (by decide))
        · exact hright

theorem isReadTo_joined (left : Condition) (c : Cursor) :
    c.IsReadTo (joined left c).2 := by
  fun_induction joined left c with
  | case1 left c hnone => exact .refl c
  | case2 left c connective hword c' hterm =>
      exact (ComesTo.advance c).trans ((isReadTo_term c.advance).of_eq hterm)
  | case3 left c connective hword right c' hterm ih =>
      have hright : c.advance.IsReadTo c' := (isReadTo_term c.advance).of_eq hterm
      exact ((ComesTo.advance c).trans hright).trans ih

theorem isReadTo_condition (c : Cursor) : c.IsReadTo (condition c).2 := by
  have hfirst := isReadTo_term c
  rw [condition]
  generalize term c = first at hfirst
  obtain ⟨_ | first, c₁⟩ := first
  · exact hfirst
  · exact hfirst.trans (isReadTo_joined first c₁)

theorem isReadTo_arguments (c : Cursor) : c.IsReadTo (arguments c).2 := by
  fun_induction arguments c with
  | case1 c c₁ hnone =>
      have hoperand : c.IsReadTo c₁ := (isReadTo_operand c).of_eq hnone
      exact hoperand.trans (isReadTo_complain c₁ (by decide))
  | case2 c first c₁ hfirst c₂ hcomma =>
      have hoperand : c.IsReadTo c₁ := (isReadTo_operand c).of_eq hfirst
      exact hoperand.trans ((comesTo_eat c₁ .comma).of_eq hcomma)
  | case3 c first c₁ hfirst comma c₂ hcomma c₃ hothers ih =>
      have hoperand : c.IsReadTo c₁ := (isReadTo_operand c).of_eq hfirst
      have hnext : c₁.IsReadTo c₂ := (comesTo_eat c₁ .comma).of_eq hcomma
      exact (hoperand.trans hnext).trans (ih.of_eq hothers)
  | case4 c first c₁ hfirst comma c₂ hcomma others c₃ hothers ih =>
      have hoperand : c.IsReadTo c₁ := (isReadTo_operand c).of_eq hfirst
      have hnext : c₁.IsReadTo c₂ := (comesTo_eat c₁ .comma).of_eq hcomma
      exact (hoperand.trans hnext).trans (ih.of_eq hothers)

theorem isReadTo_closed (name : String) (arguments : List Operand) (c : Cursor) :
    c.IsReadTo (closed name arguments c).2 := by
  have hclosing := isReadTo_expect c .rightParen
    (by decide : Remark.unterminatedArguments.IsOf "parser")
  rw [closed]
  generalize c.expect .rightParen .unterminatedArguments = closing at hclosing
  obtain ⟨_ | closing, c₁⟩ := closing
  · exact hclosing
  · exact hclosing

theorem isReadTo_command (c : Cursor) : c.IsReadTo (command c).2 := by
  have hname := isReadTo_expect c .identifier
    (by decide : Remark.expectedCommand.IsOf "parser")
  rw [command]
  generalize c.expect .identifier .expectedCommand = name at hname
  obtain ⟨_ | name, c₁⟩ := name
  · exact hname
  · have hopening := hname.trans (comesTo_eat c₁ .leftParen)
    dsimp only
    generalize c₁.eat .leftParen = opening at hopening
    obtain ⟨_ | opening, c₂⟩ := opening
    · exact hopening
    · dsimp only
      split
      · exact hopening.trans (isReadTo_closed ..)
      · have hoperands := hopening.trans (isReadTo_arguments c₂)
        generalize arguments c₂ = operands at hoperands
        obtain ⟨_ | operands, c₃⟩ := operands
        · exact hoperands
        · exact hoperands.trans (isReadTo_closed ..)

theorem isReadTo_conditional (c : Cursor) : c.IsReadTo (conditional c).2 := by
  have hcondition := (ComesTo.advance c).trans (isReadTo_condition c.advance)
  rw [conditional]
  generalize condition c.advance = condition at hcondition
  obtain ⟨_ | condition, c₁⟩ := condition
  · exact hcondition
  · have hmiddle := hcondition.trans (isReadTo_expect c₁ .thenWord
      (by decide : Remark.expectedThen.IsOf "parser"))
    dsimp only
    generalize c₁.expect .thenWord .expectedThen = middle at hmiddle
    obtain ⟨_ | middle, c₂⟩ := middle
    · exact hmiddle
    · have hcommand := hmiddle.trans (isReadTo_command c₂)
      dsimp only
      generalize command c₂ = command at hcommand
      obtain ⟨_ | command, c₃⟩ := command
      · exact hcommand
      · exact hcommand

theorem isReadTo_fallback (c : Cursor) : c.IsReadTo (fallback c).2 := by
  have hcommand := (ComesTo.advance c).trans (isReadTo_command c.advance)
  rw [fallback]
  generalize command c.advance = command at hcommand
  obtain ⟨_ | command, c₁⟩ := command
  · exact hcommand
  · exact hcommand

theorem isReadTo_bare (c : Cursor) : c.IsReadTo (bare c).2 := by
  have hcommand := isReadTo_command c
  rw [bare]
  generalize command c = command at hcommand
  obtain ⟨_ | command, c₁⟩ := command
  · exact hcommand
  · exact hcommand

theorem isReadTo_statement (c : Cursor) : c.IsReadTo (statement c).2 := by
  rw [statement]
  split
  · exact isReadTo_conditional c
  split
  · exact isReadTo_fallback c
  split
  · exact isReadTo_bare c
  · exact isReadTo_complain c (by decide)

end Grammar

/-! ## Lists of statements -/

section Lists

variable {allowed : Diagnostic → Prop}

theorem Grammar.comesTo_skipSeparators (c : Cursor) :
    c.ComesTo allowed (skipSeparators c) := by
  fun_induction skipSeparators c with
  | case1 c hnewline ih => exact (ComesTo.advance c).trans ih
  | case2 c hnewline => exact .refl c

theorem Recovery.comesTo_discard (recovery : Recovery) (c : Cursor) :
    c.ComesTo allowed (recovery.discard c) := by
  fun_induction discard recovery c with
  | case1 c hend => exact .refl c
  | case2 c hend hbreak => exact .advance c
  | case3 c hend hbreak hresume => exact .refl c
  | case4 c hend hbreak hresume ih => exact (ComesTo.advance c).trans ih

theorem Recovery.comesTo_recover (recovery : Recovery) (c : Cursor) :
    c.ComesTo allowed (recovery.recover c).2 := by
  rw [recover]
  split
  · exact .refl c
  split
  · exact .refl c
  · exact recovery.comesTo_discard c

/-- A list takes the steps of its elements and of what goes on after them. -/
theorem NodeList.comesTo_read {α : Type} {list : NodeList α}
    (helement : ∀ c : Cursor, c.ComesTo allowed (list.element c).2)
    (hgoOn : ∀ element (c : Cursor), c.ComesTo allowed (list.goOn element c).2) (c : Cursor) :
    c.ComesTo allowed (list.read c).2 := by
  have hround : ∀ c : Cursor, c.ComesTo allowed (list.round c).2.2 := by
    intro c
    exact (helement c).trans (hgoOn _ _)
  fun_induction list.read c with
  | case1 c hdone => exact .refl c
  | case2 c hdone element c' hstep =>
      simpa only [hstep] using hround c
  | case3 c hdone element c' hstep hdone' =>
      simpa only [hstep] using hround c
  | case4 c hdone element c' hstep hdone' hprogress following ih =>
      have hfirst := hround c
      simp only [hstep] at hfirst
      exact hfirst.trans ih
  | case5 c hdone element c' hstep hdone' hprogress =>
      simpa only [hstep] using hround c

end Lists

namespace Grammar

theorem isReadTo_element (c : Cursor) : c.IsReadTo (statementList.element c).2 := by
  have hstatement := isReadTo_statement c
  simp only [statementList]
  generalize statement c = statement at hstatement
  obtain ⟨_ | statement, c₁⟩ := statement
  · exact hstatement
  · exact hstatement.trans (comesTo_skipSeparators c₁)

theorem isReadTo_goOn (element : Option Statement) (c : Cursor) :
    c.IsReadTo (statementList.goOn element c).2 := by
  rcases element with _ | element
  · exact (Recovery.statement.comesTo_recover c).trans (comesTo_skipSeparators _)
  · exact .refl c

theorem isReadTo_script (c : Cursor) : c.IsReadTo (script c).2 :=
  (comesTo_skipSeparators c).trans (NodeList.comesTo_read isReadTo_element isReadTo_goOn _)

end Grammar

/-- A cursor starts without diagnostics. -/
theorem Cursor.diagnostics_of_ofTokens? {tokens : List Token} {c : Cursor}
    (h : ofTokens? tokens = .ok c) : c.diagnostics = [] := by
  rw [ofTokens?] at h
  split at h
  · split at h
    · obtain rfl := Except.ok.inj h
      rfl
    · cases h
  · cases h

/-- All diagnostics of a script are remarks of the grammar. -/
theorem Script.isMadeIn_of_ofTokens {tokens : List Token} {script : Script}
    {ds : List Diagnostic} (h : ofTokens tokens = .ok (script, ds)) :
    ∀ d ∈ ds, d.IsMadeIn "parser" := by
  cases hc : Cursor.ofTokens? tokens with
  | error fault => simp [ofTokens, hc, bind, Except.bind] at h
  | ok c =>
      have hread := Grammar.isReadTo_script c
      simp only [ofTokens, hc, bind, Except.bind] at h
      generalize Grammar.script c = result at h hread
      obtain ⟨_ | found, c'⟩ := result
      · cases h
      · obtain ⟨-, rfl⟩ := Prod.mk.inj (Except.ok.inj h)
        obtain ⟨made, hdiagnostics, hmade⟩ := hread.exists_diagnostics
        rw [Cursor.diagnostics_of_ofTokens? hc, List.nil_append] at hdiagnostics
        exact hdiagnostics ▸ hmade

end Autopilot
