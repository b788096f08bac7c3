import Autopilot.Command.BuiltIn

/-!
# What the commands of the drone do

The registry of the commands of the drone finds each of them under its name in any
letter case.  Every one of them but the depositing leaves the world as it is, and gives
a report.
-/

namespace Autopilot

/-- A table made from a list has for a key the value of the first member with it. -/
theorem lookup_map_eq_map_find? {α β : Type} (name : α → String) (value : α → β)
    (members : List α) (key : String) :
    (members.map fun member => (name member, value member)).lookup key =
      (members.find? (name · = key)).map value := by
  induction members with
  | nil => rfl
  | cons member rest ih =>
      by_cases h : name member = key
      · simp [h]
      · have hbeq : (key == name member) = false := by simpa using Ne.symm h
        simp [List.lookup_cons, hbeq, h, ih]

variable {σ : Type} [World σ]

theorem Registry.lookup_builtIn (name : String) :
    (Registry.builtIn : Registry σ).lookup name =
      (BuiltIn.ofKey? (Text.lowercase name)).map BuiltIn.handle :=
  lookup_map_eq_map_find? _ _ _ _

namespace BuiltIn

theorem name_of_ofKey? {key : String} {builtIn : BuiltIn} (h : ofKey? key = some builtIn) :
    builtIn.name = key := by
  simpa using List.find?_some h

/-- No two commands have the same name. -/
theorem name_injective {a b : BuiltIn} (h : a.name = b.name) : a = b := by
  revert h
  cases a <;> cases b <;> decide

/-- A command that deposits nothing gives a report and leaves the world as it is. -/
theorem exists_handle_eq_of_ne {builtIn : BuiltIn} (h : builtIn ≠ deposit)
    (command : Command) (world : σ) :
    ∃ outcome, builtIn.handle command world = (.ok outcome, world) := by
  cases builtIn with
  | deposit => exact absurd rfl h
  | _ => exact ⟨_, rfl⟩

end BuiltIn

end Autopilot
