import Autopilot.Diagnostic.Report
import Autopilot.Source.Basic
import Autopilot.Tick.Evaluation
import Autopilot.World.Drone

/-!
# Checks and ticks of a text

A text is checked, or run for a tick, either from scratch or with a source that is held
from before.  Rules are given only with a text that is yet to be read: a held source has
rules of its own.
-/

namespace Autopilot

/-- Rules extended by the names of commands and by all names of a drone. -/
def Rules.forDrone (rules : Option Rules) (commands : List String) : Rules :=
  (rules.getD Rules.none).withVocabulary commands Drone.queryNames Drone.variableNames

/-- The held source, or a text read with rules. -/
def Source.resolve (held : Option Source) (text : String) (rules : Option Rules) :
    Except Fault Source :=
  match held, rules with
  | some _, some _ => .error .sourceWithOptions
  | some source, none => .ok source
  | none, rules => Source.ofText text rules

/-- The outcome of a check. -/
structure CheckReport where
  source : Source
  diagnostics : List Diagnostic
  hasErrors : Bool

/-- The outcome of a tick of a text. -/
structure TickReport where
  source : Source
  tick : Tick
  diagnostics : List Diagnostic

/-- The record of a check. -/
def CheckReport.logged (report : CheckReport) : LogRecord where
  level := .debug
  source := .check
  message := "Checked script: " ++ toString report.diagnostics.length ++ " diagnostics"

/-- Checks a text: the diagnostics of reading it and the remarks on its script. -/
def Source.study (held : Option Source) (text : String) (rules : Option Rules) :
    Except Fault CheckReport := do
  let source ← Source.resolve held text rules
  let (remarks, source) ← source.check
  let diagnostics := Diagnostic.merged (source.reading.diagnostics ++ remarks)
  return ⟨source, diagnostics, Diagnostic.anyError diagnostics⟩

/-- What a tick of a text leaves: the report or a fault, the world, and the log. -/
structure TickStudy (σ : Type) where
  report : Except Fault TickReport
  world : σ
  log : List LogRecord

/-- Runs a text for a tick: a text with mistakes is run as far as it was read. -/
def Source.runTick {σ : Type} [World σ] (held : Option Source) (text : String)
    (rules : Option Rules) (registry : Registry σ) (tolerance : Tolerance) (world : σ) :
    TickStudy σ :=
  match Source.resolve held text rules with
  | .error fault => ⟨.error fault, world, []⟩
  | .ok source =>
    let outcome := source.script.tick registry tolerance world
    let report := outcome.tick.map fun tick =>
      ⟨source, tick, Diagnostic.merged (source.reading.diagnostics ++ tick.diagnostics)⟩
    ⟨report, outcome.world, outcome.log⟩

end Autopilot
