import Autopilot.Text.Lowercase
import Autopilot.World.Basic
import Autopilot.World.Resources

/-!
# The drone

A simulated drone: its battery, its health, its cargo, where it is and what is around
it.  The names of its queries and variables are matched in any letter case, those of
resources exactly.
-/

namespace Autopilot

/-- The state of a drone. -/
structure Drone where
  battery : Number
  hp : Number
  cargoAmount : Number
  maxCargo : Number
  position : Number × Number
  stormActive : Bool
  inHazardZone : Bool
  nearbyCharger : Bool
  nearbyDamagedDrone : Bool
  nearbyResources : Resources
deriving DecidableEq

namespace Drone

/-- A small whole number as a real one. -/
def real (n : Nat) : Number :=
  .real (.ofDecimal false n 0)

/-- A drone fresh from the dock. -/
def fresh : Drone where
  battery := real 100
  hp := real 100
  cargoAmount := real 0
  maxCargo := real 10
  position := (real 0, real 0)
  stormActive := false
  inHazardZone := false
  nearbyCharger := false
  nearbyDamagedDrone := false
  nearbyResources := ⟨[("Iron", true), ("Copper", true), ("any", true)]⟩

/-- Whether the cargo hold is full. -/
def cargoFull (drone : Drone) : Bool :=
  drone.maxCargo.le drone.cargoAmount

/-- The queries of a drone, by their names in lower case. -/
def queryTable : List (String × (Drone → Bool)) :=
  [("cargo_full", cargoFull), ("storm_active", stormActive),
    ("in_hazard_zone", inHazardZone), ("nearby_charger", nearbyCharger),
    ("nearby_damaged_drone", nearbyDamagedDrone)]

/-- The variables of a drone, by their names in lower case. -/
def variableTable : List (String × (Drone → Number)) :=
  [("battery", battery), ("hp", hp), ("cargo", cargoAmount)]

/-- The names of the queries. -/
def queryNames : List String := queryTable.map (·.1)

/-- The names of the variables. -/
def variableNames : List String := variableTable.map (·.1)

/-- The answer to a query. -/
def flag (drone : Drone) (name : String) : Except Fault Bool :=
  match queryTable.lookup (Text.lowercase name) with
  | some query => .ok (query drone)
  | none => .error (.unknownName .query name)

/-- The value of a variable. -/
def number (drone : Drone) (name : String) : Except Fault Number :=
  match variableTable.lookup (Text.lowercase name) with
  | some value => .ok (value drone)
  | none => .error (.unknownName .variable name)

/-- The drone with an empty cargo hold. -/
def emptied (drone : Drone) : Drone :=
  { drone with cargoAmount := real 0 }

/-- The text of a drone. -/
def describe (drone : Drone) : Except Fault String := do
  let battery ← drone.battery.fixedText
  let hp ← drone.hp.fixedText
  let cargo ← drone.cargoAmount.briefText
  let capacity ← drone.maxCargo.briefText
  return "Drone[Battery:" ++ battery ++ "% HP:" ++ hp ++ "% Cargo:" ++ cargo ++ "/" ++
    capacity ++ " Pos:(" ++ drone.position.1.text ++ ", " ++ drone.position.2.text ++
    ") Storm:" ++ truthWord drone.stormActive ++ " Hazard:" ++
    truthWord drone.inHazardZone ++ "]"

instance : World Drone where
  flag name drone := (drone.flag name, drone)
  number name drone := (drone.number name, drone)
  resourceNearby drone name := drone.nearbyResources.isNear name
  unload drone := (.ok drone.cargoAmount, drone.emptied)
  describe := describe

/-- A change to one part of a drone. -/
inductive Change where
  | battery (value : Number)
  | hp (value : Number)
  | cargoAmount (value : Number)
  | maxCargo (value : Number)
  | position (value : Number × Number)
  | stormActive (value : Bool)
  | inHazardZone (value : Bool)
  | nearbyCharger (value : Bool)
  | nearbyDamagedDrone (value : Bool)
  | nearbyResources (value : Resources)
  | resource (name : String) (near : Bool)

/-- The drone after a change. -/
def apply (drone : Drone) : Change → Drone
  | .battery value => { drone with battery := value }
  | .hp value => { drone with hp := value }
  | .cargoAmount value => { drone with cargoAmount := value }
  | .maxCargo value => { drone with maxCargo := value }
  | .position value => { drone with position := value }
  | .stormActive value => { drone with stormActive := value }
  | .inHazardZone value => { drone with inHazardZone := value }
  | .nearbyCharger value => { drone with nearbyCharger := value }
  | .nearbyDamagedDrone value => { drone with nearbyDamagedDrone := value }
  | .nearbyResources value => { drone with nearbyResources := value }
  | .resource name near =>
    { drone with nearbyResources := drone.nearbyResources.note name near }

/-- The drone after several changes, one after the other. -/
def applyAll (drone : Drone) (changes : List Change) : Drone :=
  changes.foldl apply drone

end Drone

end Autopilot
