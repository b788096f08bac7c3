import Autopilot.Text.Similarity

/-!
# Rules for checking scripts

Rules limit the size of a script and list the names that it may use.  An empty list of
names is no restriction.  Rules never change what a script is.
-/

namespace Autopilot

/-- The values that rules are made from. -/
structure Settings where
  maxStatements : Option Int := none
  maxConditionTerms : Option Int := none
  knownCommands : List String := []
  knownQueries : List String := []
  knownVariables : List String := []
  suggestionCutoff : Option Number := none
  warnOrphanFallback : Bool := true

/-- What a script is checked against. -/
structure Rules where
  maxStatements : Option Nat
  maxConditionTerms : Option Nat
  knownCommands : List String
  knownQueries : List String
  knownVariables : List String
  /-- How similar a known name has to be to an unknown one to be suggested for it. -/
  suggestionCutoff : Number
  warnOrphanFallback : Bool
  terms_pos : ∀ n ∈ maxConditionTerms, 1 ≤ n
  cutoff_share : Text.isShare suggestionCutoff = true

namespace Rules

/-- The cutoff of suggestions unless another one is set: three quarters. -/
def defaultCutoff : Number :=
  .real (.ofDecimal false 75 (-2))

theorem isShare_defaultCutoff : Text.isShare defaultCutoff = true := by
  decide +kernel

/-- Rules without limits and without known names. -/
def none : Rules where
  maxStatements := Option.none
  maxConditionTerms := Option.none
  knownCommands := []
  knownQueries := []
  knownVariables := []
  suggestionCutoff := defaultCutoff
  warnOrphanFallback := true
  terms_pos := by simp
  cutoff_share := isShare_defaultCutoff

/-- The rules made from settings: limits that are possible, and a cutoff between zero
and one. -/
def ofSettings (settings : Settings) : Except Fault Rules :=
  if settings.maxStatements.any (· < 0) then .error .negativeStatementLimit
  else if hterms : settings.maxConditionTerms.any (· < 1) then
    .error .emptyConditionLimit
  else if hcutoff : Text.isShare (settings.suggestionCutoff.getD defaultCutoff) then
    .ok {
      maxStatements := settings.maxStatements.map Int.toNat
      maxConditionTerms := settings.maxConditionTerms.map Int.toNat
      knownCommands := settings.knownCommands
      knownQueries := settings.knownQueries
      knownVariables := settings.knownVariables
      suggestionCutoff := settings.suggestionCutoff.getD defaultCutoff
      warnOrphanFallback := settings.warnOrphanFallback
      terms_pos := by
        cases hmax : settings.maxConditionTerms with
        | none => simp
        | some n =>
          simp only [hmax, Option.any_some, decide_eq_true_eq] at hterms
          simp
          omega
      cutoff_share := hcutoff }
  else .error .cutoffOutOfRange

/-- The rules with more known names, which are taken in lower case. -/
def withVocabulary (rules : Rules)
    (commandNames queryNames variableNames : List String) : Rules :=
  { rules with
    knownCommands := rules.knownCommands ++ commandNames.map Text.lowercase
    knownQueries := rules.knownQueries ++ queryNames.map Text.lowercase
    knownVariables := rules.knownVariables ++ variableNames.map Text.lowercase }

end Rules

/-- Names in order, each one once. -/
def sortedNames (names : List String) : List String :=
  (names.mergeSort fun a b => decide (a ≤ b)).eraseReps

end Autopilot
