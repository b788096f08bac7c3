import Autopilot.Source.Study

/-!
# Scenarios

A scenario is a script and a world in which it is shown at work: the world, the script,
the diagnostics of a check and of a tick, and the trace of the tick.  Ten scenarios show
what the drone can do.
-/

namespace Autopilot

/-- A script and a world to show it in. -/
structure Scenario (σ : Type) where
  number : Int
  name : String
  script : String
  world : σ

/-- What a scenario shows and logs. -/
structure Performance where
  shown : String
  log : List LogRecord

namespace Scenario

/-- A ruler across the screen. -/
def ruler : String :=
  String.ofList (List.replicate 60 '=')

/-- The lines of a scenario, given the text of its world. -/
def lines {σ : Type} (scenario : Scenario σ) (world : String) (check : CheckReport)
    (tick : TickReport) : List String :=
  [ruler, " Test " ++ toString scenario.number ++ ": " ++ scenario.name, ruler,
    "\nDrone State: " ++ world, "\nScript:", scenario.script] ++
  check.diagnostics.map Diagnostic.render ++
  (tick.diagnostics.filter fun d => !check.diagnostics.contains d).map
    Diagnostic.render ++
  ["\nExecution Log:"] ++ tick.tick.trace.map ("  " ++ ·) ++ [""]

/-- Shows a scenario: the script is checked with the names of a drone, and what was read
is run for a tick. -/
def perform {σ : Type} [World σ] (scenario : Scenario σ) :
    Except Fault Performance := do
  let world ← World.describe scenario.world
  let registry : Registry σ := Registry.builtIn
  let rules := Rules.forDrone none registry.names
  let check ← Source.study none scenario.script (some rules)
  let study := Source.runTick (some check.source) scenario.script none registry
    Tolerance.thousandth scenario.world
  let tick ← study.report
  return ⟨Text.endLines (scenario.lines world check tick), check.logged :: study.log⟩

/-- A script that keeps a mining drone out of danger. -/
def defensiveMiner : String :=
  Text.endLines
    ["# Defensive miner script",
      "IF battery < 15 THEN goto_charger",
      "IF hp < 40 THEN goto_outpost",
      "IF storm_active THEN goto_outpost",
      "IF in_hazard_zone AND hp < 80 THEN goto_outpost",
      "IF cargo_full THEN goto_outpost",
      "mine_nearest(Uranium)",
      "ELSE mine_nearest(Titanium)",
      "ELSE mine_nearest(any)"]

/-- A drone with whole numbers for battery and health. -/
def drone (battery hp : Int) : Drone :=
  { Drone.fresh with battery := .int battery, hp := .int hp }

/-- A drone with whole numbers for battery, health and cargo. -/
def laden (battery hp cargo : Int) : Drone :=
  { drone battery hp with cargoAmount := .int cargo }

/-- The scenarios with their names, in order. -/
def sampleList : List (String × String × Drone) :=
  [("Low Battery", defensiveMiner, laden 12 100 3),
    ("Low HP", defensiveMiner, laden 80 35 5),
    ("Storm Active", defensiveMiner, { drone 80 100 with stormActive := true }),
    ("Hazard Zone", defensiveMiner, { drone 80 75 with inHazardZone := true }),
    ("Cargo Full", defensiveMiner, laden 80 100 10),
    ("Normal Mining", defensiveMiner, laden 80 100 3),
    ("Resource Fallback", defensiveMiner,
      (laden 80 100 3).applyAll [.resource "Uranium" false, .resource "Titanium" true]),
    ("Logical AND",
      Text.endLines
        ["IF battery < 20 AND cargo_full THEN goto_outpost", "mine_nearest(Iron)"],
      { Drone.fresh with battery := .int 15, cargoAmount := .int 10 }),
    ("Logical OR",
      Text.endLines
        ["IF hp < 50 OR in_hazard_zone THEN goto_outpost", "mine_nearest(Iron)"],
      { drone 80 100 with inHazardZone := true }),
    ("Comparison Operators",
      Text.endLines
        ["IF battery < 20 THEN goto_charger",
          "IF battery > 80 THEN mine_nearest(Iron)",
          "IF battery >= 80 THEN wait(10)",
          "IF battery == 80 THEN deposit"],
      { Drone.fresh with battery := .int 80 })]

/-- The scenarios, numbered from one. -/
def samples : List (Scenario Drone) :=
  sampleList.mapIdx fun index (name, script, world) => ⟨index + 1, name, script, world⟩

/-- Shows all scenarios, one after the other. -/
def performSamples : Except Fault Performance := do
  let performances ← samples.mapM perform
  return ⟨String.join (performances.map (·.shown)), performances.flatMap (·.log)⟩

end Scenario

end Autopilot
