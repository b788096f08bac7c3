import Autopilot.Proofs.Tick.Alike
import Autopilot.Proofs.Tick.Statement
import Autopilot.Proofs.Validation.Violations

/-!
# Ticks and lines

The lines of its statements do not decide what a script does.  They are only reported:
with the action, the failure and the diagnostics of a tick, and in the last line of the
trace of a tick that failed.
-/

namespace Autopilot

/-- Two statements stand on lines of a text and differ only in these. -/
structure Statement.SameBesideLine (statement statement' : Statement) : Prop where
  trigger : statement.trigger = statement'.trigger
  command : statement.command = statement'.command
  line_pos : 1 ≤ statement.line
  line_pos' : 1 ≤ statement'.line

/-- Two ends of a tick differ only in the line of the statement that decided it. -/
inductive Ending.SameBesideLine : Ending → Ending → Prop
  | acted (command : Command) (via : StatementKind) (messages : List String)
      (line line' : Int) :
      SameBesideLine (.acted ⟨command, line, via, messages⟩)
        (.acted ⟨command, line', via, messages⟩)
  | failed (kind : NameKind) (name : String) (line line' : Int)
      (position position' : Position) :
      SameBesideLine
        (.failed ⟨kind, name, line, Statement.unknownNameRemark kind name position⟩)
        (.failed ⟨kind, name, line', Statement.unknownNameRemark kind name position'⟩)
  | unhandled {statement statement' : Statement}
      (hcommand : statement.command = statement'.command) (position position' : Position) :
      SameBesideLine
        (.unhandled statement.line (statement.unknownCommandRemark position))
        (.unhandled statement'.line (statement'.unknownCommandRemark position'))
  | idle (line line' : Int) : SameBesideLine (.idle line) (.idle line')
  | exhausted : SameBesideLine .exhausted .exhausted

/-! ## Statements -/

namespace Statement

variable {σ : Type} {statement statement' : Statement}

theorem SameBesideLine.runs_unhandled (h : statement.SameBesideLine statement') :
    Leeway.strict.Runs Ending.SameBesideLine (statement.unhandled : Run σ Ending)
      statement'.unhandled := by
  rw [unhandled, unhandled, Position.lineStart_of_le h.line_pos,
    Position.lineStart_of_le h.line_pos', h.command]
  apply Leeway.runs_bind_same
  intro _
  apply Leeway.runs_bind (Leeway.runs_record _ _ _ _)
  intro _ _ _
  have hending := Ending.SameBesideLine.unhandled h.command
    (Position.ofLine statement.line) (Position.ofLine statement'.line)
  rw [unknownCommandRemark, h.command] at hending
  exact Leeway.runs_pure hending

theorem SameBesideLine.runs_fail (h : statement.SameBesideLine statement')
    (kind : NameKind) (name : String) :
    Leeway.strict.Runs (Option.Rel Ending.SameBesideLine)
      (statement.fail kind name : Run σ (Option Ending)) (statement'.fail kind name) := by
  rw [fail, fail, Position.lineStart_of_le h.line_pos,
    Position.lineStart_of_le h.line_pos']
  exact Leeway.runs_pure (.some (.failed kind name _ _ _ _))

variable {registry : Registry σ} {tolerance : Tolerance}

theorem SameBesideLine.runs_carryOut (h : statement.SameBesideLine statement') :
    Leeway.strict.Runs (Option.Rel Ending.SameBesideLine) (statement.carryOut registry)
      (statement'.carryOut registry) := by
  have hkind : statement.kind = statement'.kind := congrArg Trigger.kind h.trigger
  rw [carryOut, carryOut, h.command, hkind]
  apply Leeway.runs_bind_same
  intro _
  cases registry.lookup statement'.command.name with
  | none =>
      apply Leeway.runs_bind h.runs_unhandled
      intro ending ending' hending
      exact Leeway.runs_pure (.some hending)
  | some handler =>
      apply Leeway.runs_bind_same
      intro outcome
      apply Leeway.runs_bind_same
      intro _
      by_cases hperformed : outcome.performed = true
      · rw [if_pos hperformed, if_pos hperformed]
        exact Leeway.runs_pure (.some (.acted _ _ _ _ _))
      · rw [if_neg hperformed, if_neg hperformed]
        apply Leeway.runs_bind_same
        intro _
        exact Leeway.runs_pure .none

variable [World σ]

theorem SameBesideLine.runs_attempt (h : statement.SameBesideLine statement') :
    Leeway.strict.Runs (Option.Rel Ending.SameBesideLine)
      (statement.attempt registry tolerance) (statement'.attempt registry tolerance) := by
  rw [attempt, attempt, h.trigger, h.command]
  cases statement'.trigger with
  | condition condition =>
      apply Leeway.runs_bind_same
      intro _
      apply Leeway.runs_bind_same
      intro value
      cases value with
      | false =>
          apply Leeway.runs_bind_same
          intro _
          exact Leeway.runs_pure .none
      | true =>
          apply Leeway.runs_bind_same
          intro _
          apply Leeway.runs_bind h.runs_carryOut
          intro ending? ending?' hending
          apply Leeway.runs_pure
          cases hending with
          | none => exact .some (.idle _ _)
          | some hending => exact .some hending
  | fallback =>
      apply Leeway.runs_bind_same
      intro _
      exact h.runs_carryOut
  | always =>
      apply Leeway.runs_bind_same
      intro _
      exact h.runs_carryOut

theorem SameBesideLine.runs_run (h : statement.SameBesideLine statement') :
    Leeway.strict.Runs (Option.Rel Ending.SameBesideLine)
      (statement.run registry tolerance) (statement'.run registry tolerance) := by
  apply Leeway.runs_rescue (fun _ _ hline => hline) h.runs_attempt
  rintro kind name _ rfl
  exact h.runs_fail kind name

end Statement

/-! ## Ticks -/

/-- The last line of the trace of a tick that failed. -/
def failureLine (line : Int) (message : String) : String :=
  "--- Evaluation failed on line " ++ toString line ++ ": " ++ message ++ " ---"

/-- Two ticks do the same and differ only in the lines that they report. -/
structure Tick.SameBesideLine (tick tick' : Tick) : Prop where
  action : (tick.action?.map fun action => (action.command, action.via, action.messages)) =
    tick'.action?.map fun action => (action.command, action.via, action.messages)
  failure : (tick.failure?.map fun failure => (failure.kind, failure.name)) =
    tick'.failure?.map fun failure => (failure.kind, failure.name)
  diagnostics :
    (tick.diagnostics.map fun diagnostic => (diagnostic.code, diagnostic.message)) =
      tick'.diagnostics.map fun diagnostic => (diagnostic.code, diagnostic.message)
  trace : tick.trace = tick'.trace ∨ ∃ body line line' message,
    tick.failure?.map (·.line) = some line ∧ tick'.failure?.map (·.line) = some line' ∧
    tick.trace = body ++ [failureLine line message] ∧
    tick'.trace = body ++ [failureLine line' message]

namespace Ending

variable {ending ending' : Ending}

theorem SameBesideLine.action (h : ending.SameBesideLine ending') :
    (ending.action?.map fun action => (action.command, action.via, action.messages)) =
      ending'.action?.map fun action => (action.command, action.via, action.messages) := by
  cases h <;> rfl

theorem SameBesideLine.failure (h : ending.SameBesideLine ending') :
    (ending.failure?.map fun failure => (failure.kind, failure.name)) =
      ending'.failure?.map fun failure => (failure.kind, failure.name) := by
  cases h <;> rfl

theorem SameBesideLine.diagnostics (h : ending.SameBesideLine ending') :
    (ending.diagnostics.map fun diagnostic => (diagnostic.code, diagnostic.message)) =
      ending'.diagnostics.map fun diagnostic => (diagnostic.code, diagnostic.message) := by
  cases h with
  | unhandled hcommand position position' =>
      simp only [Ending.diagnostics, Statement.unknownCommandRemark, hcommand]
      rfl
  | _ => rfl

theorem closing_failed (failure : Failure) :
    (failed failure).closing = failureLine failure.line failure.diagnostic.message := rfl

/-- The last lines of two traces are the same, or tell of a failure on different
lines. -/
theorem SameBesideLine.closing (h : ending.SameBesideLine ending') :
    ending.closing = ending'.closing ∨ ∃ line line' message,
      ending.failure?.map (·.line) = some line ∧
      ending'.failure?.map (·.line) = some line' ∧
      ending.closing = failureLine line message ∧
      ending'.closing = failureLine line' message := by
  cases h with
  | failed kind name line line' position position' =>
      have hmessage : (Statement.unknownNameRemark kind name position).message =
          (Statement.unknownNameRemark kind name position').message := rfl
      refine Or.inr ⟨line, line', _, rfl, rfl, closing_failed _, ?_⟩
      rw [closing_failed, hmessage]
  | _ => exact Or.inl rfl

end Ending

theorem Leeway.Ticks.sameBesideLine {tick tick' : Tick}
    (h : Leeway.strict.Ticks Ending.SameBesideLine tick tick') :
    tick.SameBesideLine tick' := by
  obtain ⟨hending, first, body, body', hbody, htrace, htrace'⟩ := h
  obtain rfl : body = body' := List.forall₂_eq_eq_eq ▸ hbody
  refine ⟨hending.action, hending.failure, hending.diagnostics, ?_⟩
  rcases hending.closing with hsame | ⟨line, line', message, hline, hline', hclosing, hclosing'⟩
  · rw [htrace, htrace', hsame]
    exact Or.inl rfl
  · rw [hclosing] at htrace
    rw [hclosing'] at htrace'
    exact Or.inr ⟨first :: body, line, line', message, hline, hline', htrace, htrace'⟩

/-- Scripts whose statements differ only in their lines do the same in every world. -/
theorem Script.tick_sameBesideLine {σ : Type} [World σ] {script script' : Script}
    (h : List.Forall₂ Statement.SameBesideLine script.statements script'.statements)
    (registry : Registry σ) (tolerance : Tolerance) (world : σ) :
    (script.tick registry tolerance world).world =
        (script'.tick registry tolerance world).world ∧
      Leeway.strict.Results Tick.SameBesideLine
        (script.tick registry tolerance world).tick
        (script'.tick registry tolerance world).tick := by
  have hruns : Leeway.strict.Runs Ending.SameBesideLine
      (runStatements registry tolerance script.statements)
      (runStatements registry tolerance script'.statements) :=
    Leeway.runs_runStatements (h.imp fun _ _ hsame => hsame.runs_run) .exhausted
  obtain ⟨hworld, htick⟩ := Leeway.ticks_of_runs world h.length_eq hruns
  refine ⟨hworld, htick.imp ?_⟩
  intro tick tick' halike
  exact halike.sameBesideLine

end Autopilot
