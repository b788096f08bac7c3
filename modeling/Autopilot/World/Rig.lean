import Autopilot.World.Basic
import Autopilot.World.Resources

/-!
# The test rig

A world whose answers are given by tables, for trying out scripts.  Its names are exact,
and it counts how often each name was looked up, whether it knows the name or not.
-/

namespace Autopilot

/-- A world given by tables. -/
structure Rig where
  label : String
  numbers : List (String × Number)
  flags : List (String × Bool)
  resources : Resources
  cargo : Number
  /-- How often each name was looked up, in the order of the first lookups. -/
  calls : List (String × Nat)

namespace Rig

/-- A count with one more for a name. -/
def countIn (name : String) : List (String × Nat) → List (String × Nat)
  | [] => [(name, 1)]
  | entry :: rest =>
    if entry.1 = name then (name, entry.2 + 1) :: rest else entry :: countIn name rest

/-- The rig after a lookup of a name. -/
def counted (rig : Rig) (name : String) : Rig :=
  { rig with calls := countIn name rig.calls }

/-- An entry of a table; a name that is not in it is unknown. -/
def entry {α : Type} (kind : NameKind) (table : List (String × α)) (name : String) :
    Except Fault α :=
  match table.lookup name with
  | some value => .ok value
  | none => .error (.unknownName kind name)

instance : World Rig where
  flag name rig := (entry .query rig.flags name, rig.counted name)
  number name rig := (entry .variable rig.numbers name, rig.counted name)
  resourceNearby rig name := rig.resources.isNear name
  unload rig := (.ok rig.cargo, { rig with cargo := .real .zero })
  describe rig := .ok rig.label

end Rig

end Autopilot
