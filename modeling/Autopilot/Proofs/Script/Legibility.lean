import Autopilot.Proofs.Script.Backward
import Autopilot.Proofs.Tick.Opening
import Autopilot.World.Rig

/-!
# Scripts are told apart by their texts

Two spelled scripts have the same text only if they are the same up to the lines of
their statements.  A script falls apart at its line breaks, a statement with a condition
at `THEN`, neither of which stands inside a condition or a command.
-/

namespace Autopilot

open Lexeme

/-! ## Commands -/

/-- The operand that a token is, if it is one. -/
def operandOf? : TokenKind × String → Option Operand
  | (.identifier, word) => some (.name word)
  | (.number, raw) => some (.number raw)
  | _ => none

theorem operandOf?_spelled (operand : Operand) :
    operandOf? operand.spelled = some operand := by
  cases operand <;> rfl

theorem filterMap_spelling_furtherLexemes {operands : List Operand}
    (h : ∀ operand ∈ operands, operand.IsSpelled) :
    (spelling (furtherLexemes operands)).filterMap operandOf? = operands := by
  induction operands with
  | nil => rfl
  | cons operand operands ih =>
      obtain ⟨hoperand, hoperands⟩ := List.forall_mem_cons.mp h
      have hcomma : operandOf? (.comma, ",") = none := rfl
      rw [furtherLexemes] at ih ⊢
      simp [operand.spelled?_lexeme hoperand, hcomma, operandOf?_spelled, ih hoperands]

/-- The name and the arguments of a command are found in its tokens. -/
theorem Command.exists_spelling_lexemes {command : Command} (h : command.IsSpelled) :
    ∃ further, spelling command.lexemes = (.identifier, command.name) :: further ∧
      further.filterMap operandOf? = command.arguments := by
  obtain ⟨name, arguments⟩ := command
  obtain ⟨hname, harguments⟩ := h
  cases arguments with
  | nil => exact ⟨[], by simp [lexemes, spelled?_name hname], rfl⟩
  | cons first others =>
      obtain ⟨hfirst, hothers⟩ := List.forall_mem_cons.mp harguments
      have hopening : operandOf? (.leftParen, "(") = none := rfl
      have hclosing : operandOf? (.rightParen, ")") = none := rfl
      refine ⟨spelling (opening :: first.lexeme :: (furtherLexemes others ++ [closing])),
        by simp [lexemes, spelled?_name hname], ?_⟩
      simp [first.spelled?_lexeme hfirst, hopening, hclosing, operandOf?_spelled,
        filterMap_spelling_furtherLexemes hothers]

theorem Command.eq_of_spelling_lexemes {command command' : Command}
    (hspelled : command.IsSpelled) (hspelled' : command'.IsSpelled)
    (h : spelling command.lexemes = spelling command'.lexemes) : command = command' := by
  obtain ⟨further, htokens, harguments⟩ := exists_spelling_lexemes hspelled
  obtain ⟨further', htokens', harguments'⟩ := exists_spelling_lexemes hspelled'
  rw [htokens, htokens'] at h
  obtain ⟨hname, rfl⟩ := List.cons.inj h
  have hsame : command.arguments = command'.arguments := harguments.symm.trans harguments'
  obtain ⟨name, arguments⟩ := command
  obtain ⟨name', arguments'⟩ := command'
  rw [show name = name' from (Prod.mk.inj hname).2, show arguments = arguments' from hsame]

/-! ## Statements -/

/-- A kind of tokens that neither ends a condition nor a statement. -/
def TokenKind.IsInner (kind : TokenKind) : Prop :=
  kind ≠ .thenWord ∧ kind ≠ .newline

instance (kind : TokenKind) : Decidable kind.IsInner :=
  inferInstanceAs (Decidable (_ ∧ _))

theorem Operand.isInner_spelled (operand : Operand) : operand.spelled.1.IsInner := by
  cases operand <;> exact of_decide_eq_true rfl

theorem Condition.isInner_of_mem_backward (condition : Condition) :
    ∀ token ∈ condition.backward, token.1.IsInner := by
  induction condition with
  | comparison left comparator right =>
      have hsign : comparator.kind.IsInner := by
        cases comparator <;> decide
      have hname : TokenKind.identifier.IsInner := by decide
      simp [backward, right.isInner_spelled, hsign, hname]
  | query name =>
      have hname : TokenKind.identifier.IsInner := by decide
      simp [backward, hname]
  | logical left connective right ihl ihr =>
      have hword : connective.kind.IsInner := by
        cases connective <;> decide
      rw [backward_logical, List.forall_mem_append, List.forall_mem_cons]
      refine ⟨?_, hword, ihl⟩
      rw [enclosed]
      split
      · rw [List.forall_mem_cons, List.forall_mem_append, List.forall_mem_singleton]
        exact ⟨by decide, ihr, by decide⟩
      · exact ihr

theorem Condition.isInner_of_mem_spelling {condition : Condition}
    (h : condition.IsSpelled) :
    ∀ token ∈ spelling condition.lexemes, token.1.IsInner := by
  intro token htoken
  apply condition.isInner_of_mem_backward token
  rw [← reverse_spelling_lexemes h, List.mem_reverse]
  exact htoken

theorem isInner_of_mem_furtherLexemes {operands : List Operand}
    (h : ∀ operand ∈ operands, operand.IsSpelled) :
    ∀ token ∈ spelling (furtherLexemes operands), token.1.IsInner := by
  induction operands with
  | nil => exact nofun
  | cons operand operands ih =>
      obtain ⟨hoperand, hoperands⟩ := List.forall_mem_cons.mp h
      have hcomma : TokenKind.comma.IsInner := by decide
      have hothers := ih hoperands
      rw [furtherLexemes] at hothers ⊢
      simpa [operand.spelled?_lexeme hoperand, hcomma, operand.isInner_spelled] using hothers

theorem Command.isInner_of_mem_spelling {command : Command} (h : command.IsSpelled) :
    ∀ token ∈ spelling command.lexemes, token.1.IsInner := by
  obtain ⟨name, arguments⟩ := command
  obtain ⟨hname, harguments⟩ := h
  have hidentifier : TokenKind.identifier.IsInner := by decide
  cases arguments with
  | nil => simpa [lexemes, spelled?_name hname] using hidentifier
  | cons first others =>
      obtain ⟨hfirst, hothers⟩ := List.forall_mem_cons.mp harguments
      have hopening : TokenKind.leftParen.IsInner := by decide
      have hclosing : TokenKind.rightParen.IsInner := by decide
      have hfurther := isInner_of_mem_furtherLexemes hothers
      simp only [lexemes, spelling_cons, spelling_append, spelled?_name hname,
        first.spelled?_lexeme hfirst]
      simpa [hidentifier, hopening, hclosing, first.isInner_spelled, or_imp,
        forall_and] using hfurther

/-- Lists that are ended by an entry which is not in them are told apart. -/
theorem append_cons_inj_of_notMem_of_notMem {α : Type} {x : α}
    {front front' back back' : List α} (hfront : x ∉ front) (hfront' : x ∉ front')
    (h : front ++ x :: back = front' ++ x :: back') : front = front' ∧ back = back' := by
  induction front generalizing front' with
  | nil =>
      cases front' with
      | nil => exact ⟨rfl, (List.cons.inj h).2⟩
      | cons y front' =>
          obtain ⟨rfl, -⟩ := List.cons.inj h
          exact absurd List.mem_cons_self hfront'
  | cons y front ih =>
      cases front' with
      | nil =>
          obtain ⟨rfl, -⟩ := List.cons.inj h
          exact absurd List.mem_cons_self hfront
      | cons y' front' =>
          obtain ⟨rfl, hrest⟩ := List.cons.inj h
          obtain ⟨rfl, rfl⟩ := ih (mt (List.mem_cons_of_mem _) hfront)
            (mt (List.mem_cons_of_mem _) hfront') hrest
          exact ⟨rfl, rfl⟩

/-- The kind of the first token of a form of statements. -/
def StatementKind.firstToken : StatementKind → TokenKind
  | conditional => .ifWord
  | fallback => .elseWord
  | command => .identifier

theorem StatementKind.firstToken_injective : Function.Injective firstToken := by
  intro kind kind' h
  cases kind <;> cases kind' <;> first | rfl | cases h

@[simp]
theorem spelled?_if : (word "IF").spelled? = some (.ifWord, "IF") :=
  spelled?_word (by decide)

@[simp]
theorem spelled?_then : (word "THEN").spelled? = some (.thenWord, "THEN") :=
  spelled?_word (by decide)

@[simp]
theorem spelled?_else : (word "ELSE").spelled? = some (.elseWord, "ELSE") :=
  spelled?_word (by decide)

namespace Statement

theorem spelling_lexemes_of_condition {statement : Statement} {condition : Condition}
    (h : statement.trigger = .condition condition) :
    spelling statement.lexemes = (.ifWord, "IF") :: (spelling condition.lexemes ++
      (.thenWord, "THEN") :: spelling statement.command.lexemes) := by
  simp [lexemes, h]

theorem spelling_lexemes_of_fallback {statement : Statement}
    (h : statement.trigger = .fallback) :
    spelling statement.lexemes =
      (.elseWord, "ELSE") :: spelling statement.command.lexemes := by
  simp [lexemes, h]

theorem spelling_lexemes_of_always {statement : Statement}
    (h : statement.trigger = .always) :
    spelling statement.lexemes = spelling statement.command.lexemes := by
  simp [lexemes, h]

variable {statement statement' : Statement}

theorem not_mem_spelling_lexemes (h : statement.IsSpelled) :
    (.newline, "\n") ∉ spelling statement.lexemes := by
  have hcommand : ((.newline, "\n") : TokenKind × String) ∉
      spelling statement.command.lexemes :=
    fun hmem => (Command.isInner_of_mem_spelling h.2 _ hmem).2 rfl
  cases htrigger : statement.trigger with
  | condition condition =>
      have htested := h.1
      rw [htrigger] at htested
      have hcondition : ((.newline, "\n") : TokenKind × String) ∉
          spelling condition.lexemes :=
        fun hmem => (Condition.isInner_of_mem_spelling htested _ hmem).2 rfl
      rw [spelling_lexemes_of_condition htrigger]
      simp [hcondition, hcommand]
  | fallback =>
      rw [spelling_lexemes_of_fallback htrigger]
      simp [hcommand]
  | always =>
      rw [spelling_lexemes_of_always htrigger]
      exact hcommand

/-- The first token of a statement tells its form. -/
theorem exists_spelling_lexemes (h : statement.IsSpelled) :
    ∃ text rest, spelling statement.lexemes = (statement.kind.firstToken, text) :: rest := by
  obtain ⟨further, hcommand, -⟩ := Command.exists_spelling_lexemes h.2
  cases htrigger : statement.trigger with
  | condition condition =>
      rw [spelling_lexemes_of_condition htrigger, kind, htrigger]
      exact ⟨_, _, rfl⟩
  | fallback =>
      rw [spelling_lexemes_of_fallback htrigger, kind, htrigger]
      exact ⟨_, _, rfl⟩
  | always =>
      rw [spelling_lexemes_of_always htrigger, kind, htrigger, hcommand]
      exact ⟨_, _, rfl⟩

theorem kind_eq_of_spelling_lexemes (hspelled : statement.IsSpelled)
    (hspelled' : statement'.IsSpelled)
    (h : spelling statement.lexemes = spelling statement'.lexemes) :
    statement.kind = statement'.kind := by
  obtain ⟨text, rest, htokens⟩ := exists_spelling_lexemes hspelled
  obtain ⟨text', rest', htokens'⟩ := exists_spelling_lexemes hspelled'
  rw [htokens, htokens'] at h
  exact StatementKind.firstToken_injective (Prod.mk.inj (List.cons.inj h).1).1

/-- Statements that are spelled by the same tokens are the same up to their lines. -/
theorem eq_of_spelling_lexemes (hspelled : statement.IsSpelled)
    (hspelled' : statement'.IsSpelled)
    (h : spelling statement.lexemes = spelling statement'.lexemes) :
    statement.trigger = statement'.trigger ∧ statement.command = statement'.command := by
  have hkind : statement.trigger.kind = statement'.trigger.kind :=
    kind_eq_of_spelling_lexemes hspelled hspelled' h
  cases htrigger : statement.trigger with
  | condition condition =>
      cases htrigger' : statement'.trigger with
      | condition condition' =>
          have htested := hspelled.1
          have htested' := hspelled'.1
          rw [htrigger] at htested
          rw [htrigger'] at htested'
          rw [spelling_lexemes_of_condition htrigger,
            spelling_lexemes_of_condition htrigger'] at h
          obtain ⟨hcondition, hcommand⟩ := append_cons_inj_of_notMem_of_notMem
            (fun hmem => (Condition.isInner_of_mem_spelling htested _ hmem).1 rfl)
            (fun hmem => (Condition.isInner_of_mem_spelling htested' _ hmem).1 rfl)
            (List.cons.inj h).2
          rw [Condition.eq_of_spelling_lexemes htested htested' hcondition]
          exact ⟨rfl, Command.eq_of_spelling_lexemes hspelled.2 hspelled'.2 hcommand⟩
      | _ =>
          rw [htrigger, htrigger'] at hkind
          cases hkind
  | fallback =>
      cases htrigger' : statement'.trigger with
      | fallback =>
          rw [spelling_lexemes_of_fallback htrigger,
            spelling_lexemes_of_fallback htrigger'] at h
          exact ⟨rfl, Command.eq_of_spelling_lexemes hspelled.2 hspelled'.2
            (List.cons.inj h).2⟩
      | _ =>
          rw [htrigger, htrigger'] at hkind
          cases hkind
  | always =>
      cases htrigger' : statement'.trigger with
      | always =>
          rw [spelling_lexemes_of_always htrigger,
            spelling_lexemes_of_always htrigger'] at h
          exact ⟨rfl, Command.eq_of_spelling_lexemes hspelled.2 hspelled'.2 h⟩
      | _ =>
          rw [htrigger, htrigger'] at hkind
          cases hkind

/-- A statement without its line. -/
def unplaced (statement : Statement) : Trigger × Command :=
  (statement.trigger, statement.command)

end Statement

/-! ## Scripts -/

namespace Script

theorem spelling_lexemes_cons (statement : Statement) (statements : List Statement) :
    spelling (lexemes ⟨statement :: statements⟩) = spelling statement.lexemes ++
      (.newline, "\n") :: spelling (lexemes ⟨statements⟩) := by
  simp [lexemes]

theorem unplaced_of_spelling_lexemes {statements statements' : List Statement}
    (hspelled : ∀ statement ∈ statements, statement.IsSpelled)
    (hspelled' : ∀ statement ∈ statements', statement.IsSpelled)
    (h : spelling (lexemes ⟨statements⟩) = spelling (lexemes ⟨statements'⟩)) :
    statements.map Statement.unplaced = statements'.map Statement.unplaced := by
  induction statements generalizing statements' with
  | nil =>
      cases statements' with
      | nil => rfl
      | cons statement' rest' =>
          rw [spelling_lexemes_cons] at h
          exact absurd h.symm (List.append_ne_nil_of_right_ne_nil _ (List.cons_ne_nil _ _))
  | cons statement rest ih =>
      cases statements' with
      | nil =>
          rw [spelling_lexemes_cons] at h
          exact absurd h (List.append_ne_nil_of_right_ne_nil _ (List.cons_ne_nil _ _))
      | cons statement' rest' =>
          obtain ⟨hfirst, hrest⟩ := List.forall_mem_cons.mp hspelled
          obtain ⟨hfirst', hrest'⟩ := List.forall_mem_cons.mp hspelled'
          rw [spelling_lexemes_cons, spelling_lexemes_cons] at h
          obtain ⟨hline, hlines⟩ := append_cons_inj_of_notMem_of_notMem
            (Statement.not_mem_spelling_lexemes hfirst)
            (Statement.not_mem_spelling_lexemes hfirst') h
          obtain ⟨htrigger, hcommand⟩ :=
            Statement.eq_of_spelling_lexemes hfirst hfirst' hline
          rw [List.map_cons, List.map_cons, ih hrest hrest' hlines, Statement.unplaced,
            Statement.unplaced, htrigger, hcommand]

/-- Scripts that are the same up to the lines of their statements have the same text. -/
theorem text_eq_of_unplaced {script script' : Script}
    (h : script.statements.map Statement.unplaced =
      script'.statements.map Statement.unplaced) : script.text = script'.text := by
  have hlines (script : Script) :
      (script.statements.map fun statement => statement.text ++ "\n") =
        (script.statements.map Statement.unplaced).map fun (trigger, command) =>
          (Statement.mk trigger command 0).text ++ "\n" := by
    rw [List.map_map]
    rfl
  rw [text, text, hlines, hlines, h]

/-- Two spelled scripts have the same text exactly if they are the same up to the lines
of their statements. -/
theorem text_eq_iff_of_isSpelled {script script' : Script}
    (hspelled : ∀ statement ∈ script.statements, statement.IsSpelled)
    (hspelled' : ∀ statement ∈ script'.statements, statement.IsSpelled) :
    script.text = script'.text ↔
      script.statements.map Statement.unplaced =
        script'.statements.map Statement.unplaced := by
  refine ⟨?_, text_eq_of_unplaced⟩
  intro h
  apply unplaced_of_spelling_lexemes hspelled hspelled'
  rw [← lexemes_text hspelled, ← lexemes_text hspelled', h]

end Script

/-! ## Traces -/

/-- The line that opens a statement with a condition shows the condition. -/
theorem Statement.opening_of_condition {statement : Statement} {condition : Condition}
    (h : statement.trigger = .condition condition) :
    statement.opening = "Evaluating: IF " ++ condition.text := by
  rw [opening, h]

/-- Lines that open statements show different conditions differently. -/
theorem Statement.condition_eq_of_opening {statement statement' : Statement}
    {condition condition' : Condition} (hspelled : condition.IsSpelled)
    (hspelled' : condition'.IsSpelled) (htrigger : statement.trigger = .condition condition)
    (htrigger' : statement'.trigger = .condition condition')
    (h : statement.opening = statement'.opening) : condition = condition' := by
  rw [opening_of_condition htrigger, opening_of_condition htrigger'] at h
  exact Condition.eq_of_text hspelled hspelled' (String.append_right_inj _ |>.mp h)

/-- Texts are unambiguous: two spelled scripts have the same text exactly if they are
the same up to the lines of their statements, two spelled conditions have different
texts, and so have the lines that show them in traces. -/
theorem texts_unambiguous :
    (∀ script script' : Script,
      (∀ statement ∈ script.statements, statement.IsSpelled) →
      (∀ statement ∈ script'.statements, statement.IsSpelled) →
        (script.text = script'.text ↔
          script.statements.map Statement.unplaced =
            script'.statements.map Statement.unplaced)) ∧
    (∀ condition condition' : Condition, condition.IsSpelled → condition'.IsSpelled →
      condition.text = condition'.text → condition = condition') ∧
    ∀ (σ σ' : Type) [World σ] [World σ'] (registry : Registry σ) (registry' : Registry σ')
      (tolerance tolerance' : Tolerance) (world : σ) (world' : σ')
      (statement statement' : Statement) (condition condition' : Condition),
      condition.IsSpelled → condition'.IsSpelled →
      statement.trigger = .condition condition →
      statement'.trigger = .condition condition' →
      ((statement.run registry tolerance) world).trace.head? =
        ((statement'.run registry' tolerance') world').trace.head? →
      condition = condition' := by
  refine ⟨?_, ?_, ?_⟩
  · intro script script' hspelled hspelled'
    exact Script.text_eq_iff_of_isSpelled hspelled hspelled'
  · intro condition condition' hspelled hspelled' htext
    exact Condition.eq_of_text hspelled hspelled' htext
  · intro σ σ' _ _ registry registry' tolerance tolerance' world world' statement statement'
      condition condition' hspelled hspelled' htrigger htrigger' hhead
    rw [Statement.run_apply, Statement.run_apply] at hhead
    exact Statement.condition_eq_of_opening hspelled hspelled' htrigger htrigger'
      (Option.some.inj hhead)

/-- Conditions joined on both sides and on the left only, in scripts on other lines. -/
theorem texts_unambiguous_two_sides :
    let first : Condition := .logical (.query "storm") .disj (.query "night")
    let second : Condition := .logical (.query "docked") .disj (.query "empty")
    let both : Condition := .logical first .conj second
    let chain : Condition :=
      .logical (.logical first .conj (.query "docked")) .disj (.query "empty")
    let script : Script := ⟨[⟨.condition both, ⟨"land", []⟩, 1⟩]⟩
    let script' : Script := ⟨[⟨.condition both, ⟨"land", []⟩, 7⟩]⟩
    let world : Rig := ⟨"rig", [], [], ⟨[]⟩, .int 7, []⟩
    let shown (condition : Condition) : Option String :=
      (((Statement.mk (.condition condition) ⟨"land", []⟩ 1).run .empty .thousandth)
        world).trace.head?
    script.text = "IF storm OR night AND (docked OR empty) THEN land\n" ∧
      (script.text = script'.text ↔ script.statements.map Statement.unplaced =
        script'.statements.map Statement.unplaced) ∧
      (both.text = chain.text → both = chain) ∧
      (shown both = shown chain → both = chain) := by
  intro first second both chain script script' world shown
  have hfirst : first.IsSpelled := ⟨⟨by decide, by decide⟩, by decide, by decide⟩
  have hsecond : second.IsSpelled := ⟨⟨by decide, by decide⟩, by decide, by decide⟩
  have hboth : both.IsSpelled := ⟨hfirst, hsecond⟩
  have hchain : chain.IsSpelled := ⟨⟨hfirst, hsecond.1⟩, hsecond.2⟩
  have hland : (Command.mk "land" []).IsSpelled := ⟨⟨by decide, by decide⟩, nofun⟩
  have hspelled : ∀ statement ∈ script.statements, statement.IsSpelled := by
    rw [List.forall_mem_singleton]
    exact ⟨hboth, hland⟩
  have hspelled' : ∀ statement ∈ script'.statements, statement.IsSpelled := by
    rw [List.forall_mem_singleton]
    exact ⟨hboth, hland⟩
  obtain ⟨hscripts, hconditions, htraces⟩ := texts_unambiguous
  exact ⟨by decide, hscripts script script' hspelled hspelled',
    hconditions both chain hboth hchain,
    htraces Rig Rig .empty .empty .thousandth .thousandth world world _ _ both chain
      hboth hchain rfl rfl⟩

end Autopilot
