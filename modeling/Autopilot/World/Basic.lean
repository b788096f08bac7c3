import Autopilot.Fault
import Autopilot.Number.Decimal

/-!
# Worlds

A world is what a script looks at and acts on.  It answers queries with truth values
and variables with numbers, knows which resources are near, holds a cargo that can be
unloaded, and can describe itself.  Looking something up may change a world, for
instance one that counts its lookups, and may fail; a failed access still leaves a
world behind.
-/

namespace Autopilot

/-- An access to a world: what it gives or why it fails, and the world afterwards. -/
abbrev Access (σ α : Type) :=
  σ → Except Fault α × σ

/-- What a script needs of a world. -/
class World (σ : Type) where
  /-- The answer to a query. -/
  flag : String → Access σ Bool
  /-- The value of a variable. -/
  number : String → Access σ Number
  /-- Whether a resource is near. -/
  resourceNearby : σ → String → Bool
  /-- Empties the cargo hold and gives what it held. -/
  unload : Access σ Number
  /-- The text in which the world appears at the head of a trace. -/
  describe : σ → Except Fault String

namespace World

/-- An access to one of two worlds. -/
def onLeft {σ τ α : Type} (result : Except Fault α × σ) : Except Fault α × (σ ⊕ τ) :=
  (result.1, .inl result.2)

/-- An access to the other one of two worlds. -/
def onRight {σ τ α : Type} (result : Except Fault α × τ) : Except Fault α × (σ ⊕ τ) :=
  (result.1, .inr result.2)

/-- One of two worlds is a world. -/
instance {σ τ : Type} [World σ] [World τ] : World (σ ⊕ τ) where
  flag name
    | .inl world => onLeft (flag name world)
    | .inr world => onRight (flag name world)
  number name
    | .inl world => onLeft (number name world)
    | .inr world => onRight (number name world)
  resourceNearby
    | .inl world => resourceNearby world
    | .inr world => resourceNearby world
  unload
    | .inl world => onLeft (unload world)
    | .inr world => onRight (unload world)
  describe
    | .inl world => describe world
    | .inr world => describe world

end World

/-- The word for a truth value in a trace. -/
def truthWord (value : Bool) : String :=
  if value then "True" else "False"

end Autopilot
