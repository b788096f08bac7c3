import Autopilot.Proofs.Tick.Leaving
import Autopilot.Tick.Evaluation

/-!
# The opening line of a statement

A statement that is run first writes one line, which tells what is tried.  What it does
from then on depends on its trigger only as far as there is a condition.
-/

namespace Autopilot

variable {σ α : Type}

/-- What is written before is there whether a trail is continued or not. -/
theorem Trail.rescue_after (trail : Trail σ α)
    (handle : NameKind → String → σ → Trail σ α) (trace : List String)
    (log : List LogRecord) :
    (trail.after trace log).rescue handle = (trail.rescue handle).after trace log := by
  by_cases h : ∃ kind name, trail.result = .error (.unknownName kind name)
  · obtain ⟨kind, name, hname⟩ := h
    have hafter : (trail.after trace log).result = .error (.unknownName kind name) := hname
    rw [rescue_of_unknownName hname, rescue_of_unknownName hafter]
    simp only [after, List.append_assoc]
  · have hnameless : Nameless trail.result := fun kind name hname => h ⟨kind, name, hname⟩
    have hafter : Nameless (trail.after trace log).result := hnameless
    rw [rescue_of_nameless hnameless, rescue_of_nameless hafter]

theorem Run.rescue_write_bind (line : String) (second : Unit → Run σ α)
    (handle : NameKind → String → Run σ α) :
    (write line >>= second).rescue handle =
      write line >>= fun _ => (second ()).rescue handle := by
  funext world
  exact Trail.rescue_after (second () world) handle [line] []

namespace Statement

/-- The first line that a statement writes. -/
def opening (statement : Statement) : String :=
  match statement.trigger with
  | .condition condition => "Evaluating: IF " ++ condition.text
  | .fallback => "Executing: ELSE " ++ statement.command.text
  | .always => "Executing: " ++ statement.command.text

variable [World σ] (registry : Registry σ) (tolerance : Tolerance) (statement : Statement)

/-- What a statement does after its first line, unknown names apart. -/
def pursue : Run σ (Option Ending) :=
  match statement.trigger with
  | .condition condition => do
    if ← condition.evaluate tolerance then
      Run.write "  Condition TRUE"
      let ending ← statement.carryOut registry
      return some (ending.getD (.idle statement.line))
    else
      Run.write "  Condition FALSE"
      return none
  | _ => statement.carryOut registry

/-- What a statement does after its first line. -/
def proceed : Run σ (Option Ending) :=
  (statement.pursue registry tolerance).rescue statement.fail

theorem attempt_eq_pursue :
    statement.attempt registry tolerance = (do
      Run.write statement.opening
      statement.pursue registry tolerance) := by
  obtain ⟨trigger, command, line⟩ := statement
  cases trigger <;> rfl

theorem run_eq_proceed :
    statement.run registry tolerance = (do
      Run.write statement.opening
      statement.proceed registry tolerance) := by
  rw [run, attempt_eq_pursue, Run.rescue_write_bind]
  rfl

/-- A statement writes its opening line and then what it does. -/
theorem run_apply (world : σ) :
    (statement.run registry tolerance) world =
      ((statement.proceed registry tolerance) world).after [statement.opening] [] := by
  rw [run_eq_proceed]
  rfl

variable {registry tolerance statement}

/-- Without a condition a statement only carries out its command. -/
theorem pursue_of_kind (h : statement.kind ≠ .conditional) :
    statement.pursue registry tolerance = statement.carryOut registry := by
  rw [pursue]
  split
  · rename_i htrigger
    rw [kind, htrigger] at h
    exact absurd rfl h
  · rfl

end Statement

namespace Script

variable [World σ] {registry : Registry σ} {tolerance : Tolerance} {statement : Statement}
  {world : σ}

/-- A statement that is passed is followed by the others. -/
theorem trace_runStatements_cons_of_passed (rest : List Statement)
    (h : ((statement.proceed registry tolerance) world).result = .ok none) :
    ((runStatements registry tolerance (statement :: rest)) world).trace =
      statement.opening :: ((statement.proceed registry tolerance) world).trace ++
        ((runStatements registry tolerance rest)
          ((statement.proceed registry tolerance) world).world).trace := by
  have hrun : ((statement.run registry tolerance) world).result = .ok none := by
    rw [Statement.run_apply]
    exact h
  rw [runStatements, Run.bind_of_ok hrun, Statement.run_apply]
  rfl

/-- A statement that is not passed is the last one. -/
theorem trace_runStatements_cons_of_not_passed (rest : List Statement)
    (h : ((statement.proceed registry tolerance) world).result ≠ .ok none) :
    ((runStatements registry tolerance (statement :: rest)) world).trace =
      statement.opening :: ((statement.proceed registry tolerance) world).trace := by
  have hrun : ((statement.run registry tolerance) world).result =
      ((statement.proceed registry tolerance) world).result := by
    rw [Statement.run_apply]
    rfl
  cases hproceed : ((statement.proceed registry tolerance) world).result with
  | error fault =>
      rw [runStatements, Run.bind_of_error (hrun.trans hproceed), Statement.run_apply]
      rfl
  | ok ending? =>
      cases ending? with
      | none => exact absurd hproceed h
      | some ending =>
          rw [runStatements, Run.bind_of_ok (hrun.trans hproceed), Statement.run_apply]
          exact List.append_nil _

end Script

end Autopilot
