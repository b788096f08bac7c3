import Autopilot.Proofs.Diagnostic.Stages
import Autopilot.Proofs.Grammar.Steps
import Autopilot.Proofs.Validation.Soundness

/-!
# Who makes diagnostics

Diagnostics are made by the lexer, by the parser, by the check of a script and by its
ticks, each of which makes remarks of its own stage only.
-/

namespace Autopilot

/-! ## Reading -/

theorem Lexeme.isMadeIn_strayRemark (position : Position) (c : Char) :
    (strayRemark position c).IsMadeIn "lexer" := by
  rw [strayRemark]
  split
  · exact .placed _ (by decide) _ _ _
  split
  · exact .placed _ (by decide) _ _ _
  · exact .placed _ (by decide) _ _ _

/-- The lexer makes remarks on stray characters only. -/
theorem isMadeIn_of_tokenize {text : String} :
    ∀ d ∈ (tokenize text).2, d.IsMadeIn "lexer" := by
  intro d hd
  obtain ⟨⟨position, lexeme⟩, -, hlexeme⟩ := List.mem_filterMap.mp hd
  cases lexeme with
  | stray c =>
      rw [← Option.some.inj hlexeme]
      exact Lexeme.isMadeIn_strayRemark position c
  | _ => cases hlexeme

theorem Reading.isMadeIn_of_ofText {text : String} {reading : Reading}
    (h : ofText text = .ok reading) :
    (∀ d ∈ reading.lexerDiagnostics, d.IsMadeIn "lexer") ∧
    ∀ d ∈ reading.parserDiagnostics, d.IsMadeIn "parser" := by
  simp only [ofText, bind, Except.bind] at h
  cases hread : Script.ofTokens (tokenize text).1 with
  | error fault =>
      rw [hread] at h
      cases h
  | ok result =>
      rw [hread] at h
      obtain rfl := Except.ok.inj h
      exact ⟨isMadeIn_of_tokenize, Script.isMadeIn_of_ofTokens hread⟩

/-! ## Checking -/

namespace Rules

variable {rules : Rules} {line : Int}

theorem isMadeIn_violation {remark : Remark} (h : remark.IsOf "validation") (line : Int)
    (message hint : Option String) :
    (violation line remark message hint).IsMadeIn "validation" :=
  .placed remark h _ _ _

theorem isMadeIn_nameViolations {remark : Remark} (h : remark.IsOf "validation")
    {noun : String} {known names : List String} :
    ∀ d ∈ rules.nameViolations remark noun known line names, d.IsMadeIn "validation" := by
  intro d hd
  obtain ⟨name, -, rfl⟩ := List.mem_map.mp hd
  exact isMadeIn_violation h ..

theorem isMadeIn_lengthViolations {script : Script} :
    ∀ d ∈ rules.lengthViolations script, d.IsMadeIn "validation" := by
  intro d hd
  rw [lengthViolations] at hd
  split at hd
  · cases hd
  · obtain ⟨extra, -, rfl⟩ := List.mem_map.mp hd
    exact isMadeIn_violation (by decide) ..

theorem isMadeIn_fallbackViolations {script : Script} :
    ∀ d ∈ rules.fallbackViolations script, d.IsMadeIn "validation" := by
  intro d hd
  rw [fallbackViolations] at hd
  split at hd
  · split at hd
    · rw [List.mem_singleton.mp hd]
      exact isMadeIn_violation (by decide) ..
    · cases hd
  · cases hd

theorem isMadeIn_termViolations {condition : Condition} :
    ∀ d ∈ rules.termViolations line condition, d.IsMadeIn "validation" := by
  intro d hd
  rw [termViolations] at hd
  split at hd
  · cases hd
  · split at hd
    · rw [List.mem_singleton.mp hd]
      exact isMadeIn_violation (by decide) ..
    · cases hd

theorem isMadeIn_conditionViolations {condition : Condition} :
    ∀ d ∈ rules.conditionViolations line condition, d.IsMadeIn "validation" := by
  intro d hd
  rw [conditionViolations, List.mem_append, List.mem_append] at hd
  rcases hd with (hd | hd) | hd
  · exact isMadeIn_termViolations d hd
  · exact isMadeIn_nameViolations (by decide) d hd
  · exact isMadeIn_nameViolations (by decide) d hd

/-- The check of a script makes remarks of the checks only. -/
theorem isMadeIn_violations (rules : Rules) (script : Script) :
    ∀ d ∈ rules.violations script, d.IsMadeIn "validation" := by
  intro d hd
  rw [violations, List.mem_append, List.mem_append, List.mem_append] at hd
  rcases hd with ((hd | hd) | hd) | hd
  · exact isMadeIn_lengthViolations d hd
  · exact isMadeIn_fallbackViolations d hd
  · obtain ⟨entry, -, hd⟩ := List.mem_flatMap.mp hd
    exact isMadeIn_conditionViolations d hd
  · obtain ⟨entry, -, hd⟩ := List.mem_flatMap.mp hd
    exact isMadeIn_nameViolations (by decide) d hd

end Rules

/-! ## Ticks -/

theorem Statement.isMadeIn_unknownNameRemark (kind : NameKind) (name : String)
    (position : Position) : (unknownNameRemark kind name position).IsMadeIn "evaluator" := by
  have hmissing : (missing kind).IsOf "evaluator" := by
    cases kind
    · decide
    · decide
  exact .placed _ hmissing _ _ _

/-- A tick reports remarks of the evaluation only. -/
theorem Script.isMadeIn_of_tick {σ : Type} [World σ] {registry : Registry σ}
    {tolerance : Tolerance} {script : Script} {world : σ} {tick : Tick}
    (h : (script.tick registry tolerance world).tick = .ok tick) :
    ∀ d ∈ tick.diagnostics, d.IsMadeIn "evaluator" := by
  intro d hd
  have hending : tick.ending ≠ .exhausted := by
    intro hexhausted
    rw [Tick.diagnostics, hexhausted] at hd
    cases hd
  obtain ⟨statement, -, reached, left, decision, hdecides⟩ := exists_decides_of_tick h hending
  cases hdecides with
  | fails _ _ _ hdiagnostics =>
      rw [hdiagnostics, List.mem_singleton] at hd
      rw [hd]
      exact Statement.isMadeIn_unknownNameRemark ..
  | lacksHandler _ _ _ hdiagnostics =>
      rw [hdiagnostics, List.mem_singleton] at hd
      rw [hd]
      exact .placed _ (by decide) _ _ _
  | acts _ _ _ _ _ _ hdiagnostics =>
      rw [hdiagnostics] at hd
      cases hd
  | idles _ _ _ _ _ _ _ hdiagnostics =>
      rw [hdiagnostics] at hd
      cases hd

end Autopilot
