import Autopilot.Command.Registry

/-!
# Handlers by recipe

A recipe describes a simple handler by what it does: it may look up a variable, it may
let a query decide whether it acts, it may unload the cargo, and it reports messages,
in this order.
-/

namespace Autopilot

/-- What a handler does. -/
structure Recipe where
  /-- Whether the command acts, unless a query decides it. -/
  performed : Bool := true
  /-- A variable to look up. -/
  reads : Option String := none
  /-- A query that decides whether the command acts. -/
  asks : Option String := none
  /-- Whether the cargo hold is emptied. -/
  unloads : Bool := false
  messages : List String := []
deriving DecidableEq, Repr

namespace Recipe

variable {σ : Type} [World σ]

/-- Looks up a variable, if there is one to look up. -/
def read : Option String → Access σ Unit
  | none, world => (.ok (), world)
  | some name, world =>
    let (value, world) := World.number name world
    (value.map fun _ => (), world)

/-- Asks a query, if there is one to ask. -/
def ask (unasked : Bool) : Option String → Access σ Bool
  | none, world => (.ok unasked, world)
  | some name, world => World.flag name world

/-- Empties the cargo hold, if it is to be emptied. -/
def empty (unloads : Bool) : Access σ Unit := fun world =>
  if unloads then
    let (amount, world) := World.unload world
    (amount.map fun _ => (), world)
  else (.ok (), world)

/-- The handler of a recipe. -/
def handle (recipe : Recipe) : Handler σ := fun _ world =>
  match read recipe.reads world with
  | (.error fault, world) => (.error fault, world)
  | (.ok _, world) =>
    match ask recipe.performed recipe.asks world with
    | (.error fault, world) => (.error fault, world)
    | (.ok performed, world) =>
      match empty recipe.unloads world with
      | (.error fault, world) => (.error fault, world)
      | (.ok _, world) => (.ok ⟨performed, recipe.messages⟩, world)

end Recipe

end Autopilot
