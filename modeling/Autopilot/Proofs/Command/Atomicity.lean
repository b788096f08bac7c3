import Autopilot.Proofs.Command.BuiltIn
import Autopilot.Proofs.Number.Range
import Autopilot.World.Drone
import Autopilot.World.Rig

/-!
# Commands that fail

A command of the drone either gives a report or leaves the world as it was, with one
exception: depositing empties the cargo hold before it writes the amount that the hold
held.  A whole number that is too large for a real cannot be written, and then the hold
is emptied and nothing is reported.
-/

namespace Autopilot

/-- A world whose cargo hold holds a number and can always be emptied. -/
structure World.HoldsCargo (σ : Type) [World σ] (amount : σ → Number) (emptied : σ → σ) :
    Prop where
  unload : ∀ world : σ, World.unload world = (.ok (amount world), emptied world)

theorem Drone.holdsCargo : World.HoldsCargo Drone cargoAmount emptied where
  unload _ := rfl

/-- The rig with an empty cargo hold. -/
def Rig.emptied (rig : Rig) : Rig :=
  { rig with cargo := .real .zero }

theorem Rig.holdsCargo : World.HoldsCargo Rig cargo emptied where
  unload _ := rfl

namespace BuiltIn

/-- The report of a command that emptied a cargo hold, given the text of the amount. -/
def depositReport (text : String) : Outcome :=
  .done [simulated ("Depositing " ++ text ++ " units at outpost...")]

theorem deposited_of_briefText {amount : Number} {text : String}
    (h : amount.briefText = .ok text) : deposited amount = .ok (depositReport text) := by
  rw [deposited, h]
  rfl

theorem deposited_of_not_inRange {amount : Number} (h : ¬ amount.InRange) :
    deposited amount = .error .numberOverflow := by
  rcases amount.toReal_cases with hreal | hreal
  · exact absurd hreal h
  · rw [deposited, Number.briefText, hreal]
    rfl

variable {σ : Type} [World σ] {amount : σ → Number} {emptied : σ → σ}

theorem handle_deposit (hcargo : World.HoldsCargo σ amount emptied) (command : Command)
    (world : σ) :
    deposit.handle command world = (deposited (amount world), emptied world) := by
  rw [handle, hcargo.unload]

/-- A call of a command leaves the world as it was if it stops with a fault, and changes
it only to report the amount that the cargo hold held. -/
structure IsAtomic (amount : σ → Number) (builtIn : BuiltIn) (command : Command)
    (world : σ) : Prop where
  fault : ∀ fault, (builtIn.handle command world).1 = .error fault →
    (builtIn.handle command world).2 = world
  report : (builtIn.handle command world).2 ≠ world →
    ∃ text, (amount world).briefText = .ok text ∧
      (builtIn.handle command world).1 = .ok (depositReport text)

theorem isAtomic_of_world_eq {builtIn : BuiltIn} {command : Command} {world : σ}
    (h : (builtIn.handle command world).2 = world) :
    builtIn.IsAtomic amount command world where
  fault _ _ := h
  report hchanged := absurd h hchanged

/-- If the amount cannot be written, only a world that emptying does not change is left
as it was. -/
theorem IsAtomic.emptied_eq (hcargo : World.HoldsCargo σ amount emptied)
    {command : Command} {world : σ} (h : deposit.IsAtomic amount command world)
    (hrange : ¬ (amount world).InRange) : emptied world = world := by
  have hhandle := handle_deposit hcargo command world
  rw [deposited_of_not_inRange hrange] at hhandle
  have hworld := h.fault .numberOverflow (by rw [hhandle])
  rw [hhandle] at hworld
  exact hworld

/-- A command of the drone is atomic unless it is the depositing of an amount that is out
of the range of the reals, in a world that is changed by emptying its hold. -/
theorem isAtomic_iff (hcargo : World.HoldsCargo σ amount emptied) (builtIn : BuiltIn)
    (command : Command) (world : σ) :
    builtIn.IsAtomic amount command world ↔
      (builtIn = deposit → (amount world).InRange ∨ emptied world = world) := by
  constructor
  · rintro hatomic rfl
    by_cases hrange : (amount world).InRange
    · exact Or.inl hrange
    · exact Or.inr (hatomic.emptied_eq hcargo hrange)
  · intro hdeposit
    by_cases hbuiltIn : builtIn = deposit
    · subst hbuiltIn
      have hhandle := handle_deposit hcargo command world
      rcases hdeposit rfl with hrange | hsame
      · obtain ⟨text, htext⟩ := hrange.exists_briefText
        rw [deposited_of_briefText htext] at hhandle
        constructor
        · intro fault hfault
          rw [hhandle] at hfault
          cases hfault
        · intro _
          exact ⟨text, htext, by rw [hhandle]⟩
      · apply isAtomic_of_world_eq
        rw [hhandle]
        exact hsame
    · obtain ⟨outcome, houtcome⟩ := exists_handle_eq_of_ne hbuiltIn command world
      apply isAtomic_of_world_eq
      rw [houtcome]

/-- Every command is atomic in a drone that holds a whole number of units. -/
theorem isAtomic_iff_of_seven_units :
    let loaded : Drone := { Drone.fresh with cargoAmount := .int 7 }
    World.HoldsCargo Drone Drone.cargoAmount Drone.emptied ∧
      (Number.int 7).InRange ∧
      ∀ builtIn : BuiltIn, builtIn.IsAtomic Drone.cargoAmount ⟨"Deposit", []⟩ loaded := by
  intro loaded
  have hrange : loaded.cargoAmount.InRange :=
    Number.inRange_int_iff.mpr (by decide +kernel)
  refine ⟨Drone.holdsCargo, hrange, ?_⟩
  intro builtIn
  apply (isAtomic_iff Drone.holdsCargo builtIn ⟨"Deposit", []⟩ loaded).mpr
  intro _
  exact Or.inl hrange

/-- A hold with a whole number that is too large for a real is emptied, and the amount is
not reported. -/
theorem deposit_empties_without_report :
    let loaded : Rig := ⟨"host", [], [], ⟨[("any", true)]⟩, .int (tenPow 400 : Nat), []⟩
    deposit.handle ⟨"deposit", []⟩ loaded = (.error .numberOverflow, loaded.emptied) ∧
      loaded.emptied ≠ loaded ∧
      ¬ deposit.IsAtomic Rig.cargo ⟨"deposit", []⟩ loaded := by
  intro loaded
  have hrange : ¬ loaded.cargo.InRange := by
    rw [Number.inRange_int_iff]
    decide +kernel
  have hchanged : loaded.emptied ≠ loaded := by
    intro hsame
    have hcargo := congrArg Rig.cargo hsame
    simp [loaded, Rig.emptied] at hcargo
  refine ⟨?_, hchanged, ?_⟩
  · rw [handle_deposit Rig.holdsCargo, deposited_of_not_inRange hrange]
  · intro hatomic
    exact hchanged (hatomic.emptied_eq Rig.holdsCargo hrange)

end BuiltIn

end Autopilot
