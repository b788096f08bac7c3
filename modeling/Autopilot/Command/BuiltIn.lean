import Autopilot.Command.Registry

/-!
# The commands of the drone

The commands that every drone understands.  All but one only report what the drone is
doing; depositing empties its cargo hold.  A command that lacks arguments, or for which
nothing is near, does not act.
-/

namespace Autopilot

/-- The commands that every drone understands. -/
inductive BuiltIn where
  | gotoCharger
  | gotoOutpost
  | gotoLocation
  | mineNearest
  | patrol
  | wait
  | deposit
  | explore
  | repairNearest
deriving DecidableEq, Repr

namespace BuiltIn

/-- All commands. -/
def all : List BuiltIn :=
  [gotoCharger, gotoOutpost, gotoLocation, mineNearest, patrol, wait, deposit, explore,
    repairNearest]

theorem mem_all (command : BuiltIn) : command ∈ all := by
  cases command <;> decide

/-- The name of a command. -/
def name : BuiltIn → String
  | gotoCharger => "goto_charger"
  | gotoOutpost => "goto_outpost"
  | gotoLocation => "goto_location"
  | mineNearest => "mine_nearest"
  | patrol => "patrol"
  | wait => "wait"
  | deposit => "deposit"
  | explore => "explore"
  | repairNearest => "repair_nearest"

/-- A message of the simulation. -/
def simulated (message : String) : String :=
  "[Simulation] " ++ message

/-- Goes to the point given by the first two arguments. -/
def goTo : List Operand → Outcome
  | x :: y :: _ =>
    .done [simulated ("Drone pathfinding to (" ++ x.text ++ ", " ++ y.text ++ ")...")]
  | _ => .skipped ["goto_location needs x and y coordinates."]

/-- Mines a resource if it is near. -/
def mine (resource : String) (near : Bool) : Outcome :=
  let searching := simulated ("Searching for nearest " ++ resource ++ " deposit...")
  if near then
    .done [searching, simulated ("Found " ++ resource ++ "! Starting mining...")]
  else .skipped [searching, simulated ("No " ++ resource ++ " deposits nearby.")]

/-- The resource that a mining command names; any one unless it names one. -/
def minedResource (arguments : List Operand) : String :=
  (arguments.head?.map Operand.text).getD "any"

/-- Patrols between two points. -/
def patrolAlong (arguments : List Operand) : Outcome :=
  if arguments.length < 4 then
    .skipped ["patrol needs two waypoints (x1, y1, x2, y2)."]
  else .done [simulated "Starting patrol route..."]

/-- Waits for the time given by the first argument. -/
def waitFor : List Operand → Outcome
  | seconds :: _ => .done [simulated ("Waiting for " ++ seconds.text ++ " seconds...")]
  | [] => .skipped ["wait needs a duration in seconds."]

/-- The report on an emptied cargo hold. -/
def deposited (amount : Number) : Except Fault Outcome := do
  return .done
    [simulated ("Depositing " ++ (← amount.briefText) ++ " units at outpost...")]

/-- Carries out a command. -/
def handle {σ : Type} [World σ] (builtIn : BuiltIn) : Handler σ := fun command world =>
  match builtIn with
  | gotoCharger =>
    (.ok (.done [simulated "Drone pathfinding to nearest charger..."]), world)
  | gotoOutpost =>
    (.ok (.done [simulated "Drone pathfinding to nearest outpost..."]), world)
  | gotoLocation => (.ok (goTo command.arguments), world)
  | mineNearest =>
    let resource := minedResource command.arguments
    (.ok (mine resource (World.resourceNearby world resource)), world)
  | patrol => (.ok (patrolAlong command.arguments), world)
  | wait => (.ok (waitFor command.arguments), world)
  | deposit =>
    match World.unload world with
    | (.ok amount, world) => (deposited amount, world)
    | (.error fault, world) => (.error fault, world)
  | explore => (.ok (.done [simulated "Exploring unseen areas..."]), world)
  | repairNearest =>
    (.ok (.done [simulated "Repairing nearest damaged drone..."]), world)

/-- The command with a key. -/
def ofKey? (key : String) : Option BuiltIn :=
  all.find? (·.name = key)

end BuiltIn

/-- The registry of the commands that every drone understands. -/
def Registry.builtIn {σ : Type} [World σ] : Registry σ :=
  ⟨BuiltIn.all.map fun command => (command.name, command.handle)⟩

end Autopilot
