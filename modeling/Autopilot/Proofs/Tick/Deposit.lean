import Autopilot.Proofs.Command.BuiltIn
import Autopilot.Proofs.Tick.Decision
import Autopilot.Proofs.Tick.Steady
import Mathlib.Logic.Function.Iterate

/-!
# What a tick changes in a drone

With the commands that every drone understands, a tick changes a drone in one way only:
it empties the cargo hold, and then it reports the command that did so.  A tick that
stops with a fault leaves the drone as it was.  The amount of the cargo is written when
the hold is already empty; that this cannot fail is known from the first line of the
trace, where the same amount was written before.
-/

namespace Autopilot

/-- A tick ended with an action that empties the cargo hold. -/
def Ending.IsDeposit (ending : Ending) : Prop :=
  ∃ action, ending.action? = some action ∧ action.command.key = "deposit"

/-- What a part of a tick leaves of a drone: an empty cargo hold if it gives a value of
a kind, and the drone as it was otherwise, also if it stops with a fault. -/
inductive Drone.Kept {α : Type} (deposits : α → Prop) (drone : Drone) :
    Except Fault α → Drone → Prop
  | emptied {value : α} (hvalue : deposits value) :
      Kept deposits drone (.ok value) drone.emptied
  | same {result : Except Fault α} (hresult : ∀ value, result = .ok value → ¬ deposits value) :
      Kept deposits drone result drone

namespace Drone

variable {α β : Type} {drone left : Drone}

theorem Kept.map {deposits : α → Prop} {deposits' : β → Prop} {result : Except Fault α}
    {change : α → β} (h : drone.Kept deposits result left)
    (hchange : ∀ value, deposits' (change value) ↔ deposits value) :
    drone.Kept deposits' (result.map change) left := by
  cases h with
  | emptied hvalue => exact .emptied ((hchange _).mpr hvalue)
  | same hresult =>
      apply Kept.same
      intro value hvalue hdeposits
      obtain ⟨given, hgiven, rfl⟩ := map_eq_ok_iff.mp hvalue
      exact hresult given hgiven ((hchange given).mp hdeposits)

/-- What is computed without touching the drone, and is never of the kind. -/
theorem kept_map {deposits : β → Prop} {change : α → β} (result : Except Fault α)
    (h : ∀ value, ¬ deposits (change value)) :
    drone.Kept deposits (result.map change) drone := by
  apply Kept.same
  intro value hvalue
  obtain ⟨given, -, rfl⟩ := map_eq_ok_iff.mp hvalue
  exact h given

theorem kept_error (deposits : α → Prop) (fault : Fault) :
    drone.Kept deposits (.error fault) drone := by
  apply Kept.same
  intro value hvalue
  cases hvalue

theorem Kept.eq_of_error {deposits : α → Prop} {fault : Fault}
    (h : drone.Kept deposits (.error fault) left) : left = drone := by
  cases h with
  | same hresult => rfl

theorem kept_ok_iff {deposits : α → Prop} {value : α} :
    drone.Kept deposits (.ok value) left ↔
      deposits value ∧ left = drone.emptied ∨ ¬ deposits value ∧ left = drone := by
  constructor
  · rintro (hvalue | hresult)
    · exact Or.inl ⟨hvalue, rfl⟩
    · exact Or.inr ⟨hresult value rfl, rfl⟩
  · rintro (⟨hvalue, rfl⟩ | ⟨hvalue, rfl⟩)
    · exact .emptied hvalue
    · apply Kept.same
      rintro _ ⟨⟩
      exact hvalue

/-- A drone that can be described has a cargo whose amount can be written. -/
theorem exists_briefText_cargo {description : String}
    (h : drone.describe = .ok description) :
    ∃ text, drone.cargoAmount.briefText = .ok text := by
  obtain ⟨battery, -, hhp⟩ := bind_eq_ok_iff.mp h
  obtain ⟨hp, -, hcargo⟩ := bind_eq_ok_iff.mp hhp
  obtain ⟨cargo, htext, -⟩ := bind_eq_ok_iff.mp hcargo
  exact ⟨cargo, htext⟩

end Drone

/-! ## One statement -/

namespace Statement

variable {statement : Statement} {tolerance : Tolerance} {drone left : Drone}

/-- Whether a statement ended the tick with an action that empties the cargo hold. -/
def EndsInDeposit (ending? : Option Ending) : Prop :=
  ∃ ending, ending? = some ending ∧ ending.IsDeposit

theorem endsInDeposit_some_iff {ending : Ending} :
    EndsInDeposit (some ending) ↔ ending.IsDeposit := by
  simp [EndsInDeposit]

theorem endsInDeposit_endingOf_iff {outcome : Outcome} :
    EndsInDeposit (statement.endingOf outcome) ↔
      outcome.performed = true ∧ statement.command.key = "deposit" := by
  by_cases hperformed : outcome.performed = true
  · rw [endingOf_of_performed hperformed, endsInDeposit_some_iff]
    simp [Ending.IsDeposit, Ending.action?, hperformed]
  · rw [endingOf_eq_none_iff.mpr (Bool.eq_false_iff.mpr hperformed)]
    simp [EndsInDeposit, hperformed]

theorem endsInDeposit_settled_iff {ending? : Option Ending} :
    EndsInDeposit (statement.settled ending?) ↔ EndsInDeposit ending? := by
  cases ending? with
  | some ending => rw [settled_some]
  | none =>
      rw [settled_none]
      by_cases hkind : statement.kind = .conditional
      · rw [if_pos hkind, endsInDeposit_some_iff]
        simp [Ending.IsDeposit, EndsInDeposit, Ending.action?]
      · rw [if_neg hkind]

/-- The report on the emptied hold is given if the amount can be written. -/
theorem exists_handle_deposit {text : String}
    (hcargo : drone.cargoAmount.briefText = .ok text) (command : Command) :
    ∃ outcome, BuiltIn.deposit.handle command drone = (.ok outcome, drone.emptied) ∧
      outcome.performed = true := by
  refine ⟨.done [BuiltIn.simulated ("Depositing " ++ text ++ " units at outpost...")],
    Prod.ext ?_ rfl, rfl⟩
  change BuiltIn.deposited drone.cargoAmount = _
  rw [BuiltIn.deposited, hcargo]
  rfl

/-- What carrying out a command of the drone comes to if the amount of its cargo can be
written: there is no such command, or a report is given, and only the depositing changes
the drone. -/
inductive Carried (statement : Statement) (drone : Drone) :
    Except Fault (Option Ending) → Drone → Prop
  | unknown {result : Except Fault (Option Ending)}
      (hresult : ((Position.lineStart statement.line).map fun position =>
        some (.unhandled statement.line (statement.unknownCommandRemark position))) =
          result) : Carried statement drone result drone
  | deposited {outcome : Outcome} (hkey : statement.command.key = "deposit")
      (hperformed : outcome.performed = true) :
      Carried statement drone (.ok (statement.endingOf outcome)) drone.emptied
  | reported {outcome : Outcome} (hkey : statement.command.key ≠ "deposit") :
      Carried statement drone (.ok (statement.endingOf outcome)) drone

theorem carried_of_carryOut {text : String}
    (hcargo : drone.cargoAmount.briefText = .ok text)
    {result : Except Fault (Option Ending)}
    (h : (statement.carryOut Registry.builtIn).Leaves drone result left) :
    statement.Carried drone result left := by
  have hlookup : (Registry.builtIn : Registry Drone).lookup statement.command.name =
      (BuiltIn.ofKey? statement.command.key).map BuiltIn.handle :=
    Registry.lookup_builtIn _
  cases hkey : BuiltIn.ofKey? statement.command.key with
  | none =>
      rw [hkey] at hlookup
      obtain ⟨hresult, rfl⟩ := (leaves_carryOut_iff_of_none hlookup).mp h
      exact .unknown hresult
  | some builtIn =>
      rw [hkey] at hlookup
      obtain ⟨reported, hcall, rfl⟩ := (leaves_carryOut_iff_of_some hlookup).mp h
      have hname := BuiltIn.name_of_ofKey? hkey
      by_cases hdeposit : builtIn = .deposit
      · subst hdeposit
        obtain ⟨outcome, hhandle, hperformed⟩ :=
          exists_handle_deposit hcargo statement.command
        obtain ⟨rfl, rfl⟩ := Prod.mk.inj (hhandle.symm.trans hcall)
        exact .deposited hname.symm hperformed
      · obtain ⟨outcome, hhandle⟩ :=
          BuiltIn.exists_handle_eq_of_ne hdeposit statement.command drone
        obtain ⟨rfl, rfl⟩ := Prod.mk.inj (hhandle.symm.trans hcall)
        apply Carried.reported
        intro hdepositKey
        exact hdeposit (BuiltIn.name_injective (hname.trans hdepositKey))

/-- Carrying out a command of the drone empties the cargo hold if it is the depositing,
and then it says so. -/
theorem Carried.kept {result : Except Fault (Option Ending)}
    (h : statement.Carried drone result left) : drone.Kept EndsInDeposit result left := by
  cases h with
  | unknown hresult =>
      subst hresult
      apply Drone.kept_map
      intro position hdeposit
      obtain ⟨action, haction, -⟩ := endsInDeposit_some_iff.mp hdeposit
      cases haction
  | deposited hkey hperformed =>
      exact .emptied (endsInDeposit_endingOf_iff.mpr ⟨hperformed, hkey⟩)
  | reported hkey =>
      apply Drone.Kept.same
      rintro _ ⟨⟩ hends
      exact hkey (endsInDeposit_endingOf_iff.mp hends).2

theorem kept_of_attempt {text : String} (hcargo : drone.cargoAmount.briefText = .ok text)
    {result : Except Fault (Option Ending)}
    (h : (statement.attempt Registry.builtIn tolerance).Leaves drone result left) :
    drone.Kept EndsInDeposit result left := by
  have hkeeps := Drone.isSteady.keeps_evaluate tolerance
  rcases leaves_attempt_iff.mp h with ⟨reached, carried, hreached, hcarried, rfl⟩ |
    ⟨condition, -, hvalue, rfl⟩ | ⟨condition, -, fault, hvalue, rfl⟩
  · rw [Drone.isSteady.eq_of_reaches hreached] at hcarried
    apply (carried_of_carryOut hcargo hcarried).kept.map
    intro ending?
    exact endsInDeposit_settled_iff
  · rw [(hkeeps condition).eq_of_leaves hvalue]
    apply Drone.Kept.same
    rintro _ ⟨⟩ ⟨ending, hending, -⟩
    cases hending
  · rw [(hkeeps condition).eq_of_leaves hvalue]
    exact Drone.kept_error _ fault

/-- Running a statement empties the cargo hold if it ends the tick with the depositing,
and leaves the drone as it is otherwise. -/
theorem kept_of_run {text : String} (hcargo : drone.cargoAmount.briefText = .ok text)
    {result : Except Fault (Option Ending)}
    (h : (statement.run Registry.builtIn tolerance).Leaves drone result left) :
    drone.Kept EndsInDeposit result left := by
  rcases Run.leaves_rescue_iff.mp h with ⟨kind, name, middle, hattempt, hfail⟩ | ⟨hattempt, -⟩
  · rw [(kept_of_attempt hcargo hattempt).eq_of_error] at hfail
    obtain ⟨rfl, rfl⟩ := leaves_fail_iff.mp hfail
    apply Drone.kept_map
    intro position hdeposit
    obtain ⟨action, haction, -⟩ := endsInDeposit_some_iff.mp hdeposit
    cases haction
  · exact kept_of_attempt hcargo hattempt

/-- A statement that is passed leaves the drone as it was. -/
theorem eq_of_isPassed {text : String} (hcargo : drone.cargoAmount.briefText = .ok text)
    (h : statement.IsPassed Registry.builtIn tolerance drone left) : left = drone := by
  rcases Drone.kept_ok_iff.mp (kept_of_run hcargo (isPassed_iff.mp h)) with
    ⟨⟨ending, hending, -⟩, -⟩ | ⟨-, hsame⟩
  · cases hending
  · exact hsame

end Statement

/-! ## Ticks -/

namespace Script

variable {tolerance : Tolerance} {drone left : Drone}

/-- Running statements goes on only while the drone is as it was. -/
theorem kept_of_runStatements {text : String}
    (hcargo : drone.cargoAmount.briefText = .ok text) {statements : List Statement}
    {result : Except Fault Ending}
    (h : (runStatements Registry.builtIn tolerance statements).Leaves drone result left) :
    drone.Kept Ending.IsDeposit result left := by
  induction statements with
  | nil =>
      obtain ⟨rfl, rfl⟩ := h
      apply Drone.Kept.same
      rintro _ ⟨⟩ ⟨action, haction, -⟩
      cases haction
  | cons statement rest ih =>
      rcases leaves_runStatements_cons_iff.mp h with ⟨middle, hpassed, hrest⟩ |
        ⟨ending, hrun, rfl⟩ | ⟨fault, hrun, rfl⟩
      · rw [Statement.eq_of_isPassed hcargo hpassed] at hrest
        exact ih hrest
      · have hkept := Statement.kept_of_run hcargo hrun
        rw [Drone.kept_ok_iff, Statement.endsInDeposit_some_iff, ← Drone.kept_ok_iff] at hkept
        exact hkept
      · rw [(Statement.kept_of_run hcargo hrun).eq_of_error]
        exact Drone.kept_error _ fault

/-- A tick gave a result, and the action in it is the depositing. -/
def TickOutcome.ReportsDeposit {σ : Type} (outcome : TickOutcome σ) : Prop :=
  ∃ tick action, outcome.tick = .ok tick ∧ tick.action? = some action ∧
    action.command.key = "deposit"

theorem kept_of_tick (script : Script) (tolerance : Tolerance) (drone : Drone) :
    let outcome := script.tick Registry.builtIn tolerance drone
    drone.Kept (fun tick => tick.ending.IsDeposit) outcome.tick outcome.world := by
  intro outcome
  cases hdescribe : World.describe drone with
  | error fault =>
      have htick : outcome.tick = .error fault := tick_of_describe_error hdescribe
      have hworld : outcome.world = drone := tick_world_of_describe_error hdescribe
      rw [htick, hworld]
      exact Drone.kept_error _ fault
  | ok description =>
      obtain ⟨text, hcargo⟩ := Drone.exists_briefText_cargo hdescribe
      obtain ⟨htick, hworld⟩ : outcome.tick = _ ∧ outcome.world = _ :=
        tick_of_describe hdescribe
      rw [htick, hworld]
      apply (kept_of_runStatements hcargo ⟨rfl, rfl⟩).map
      intro ending
      exact Iff.rfl

theorem world_of_tick (script : Script) (tolerance : Tolerance) (drone : Drone) :
    let outcome := script.tick Registry.builtIn tolerance drone
    outcome.ReportsDeposit ∧ outcome.world = drone.emptied ∨
      ¬ outcome.ReportsDeposit ∧ outcome.world = drone := by
  intro outcome
  have hkept := kept_of_tick script tolerance drone
  change drone.Kept _ outcome.tick outcome.world at hkept
  cases htick : outcome.tick with
  | error fault =>
      rw [htick] at hkept
      refine Or.inr ⟨?_, hkept.eq_of_error⟩
      rintro ⟨tick, action, hreport, -⟩
      rw [htick] at hreport
      cases hreport
  | ok tick =>
      rw [htick, Drone.kept_ok_iff] at hkept
      have hreports : outcome.ReportsDeposit ↔ tick.ending.IsDeposit := by
        rw [TickOutcome.ReportsDeposit, htick]
        constructor
        · rintro ⟨_, action, ⟨⟩, hdeposit⟩
          exact ⟨action, hdeposit⟩
        · rintro ⟨action, hdeposit⟩
          exact ⟨tick, action, rfl, hdeposit⟩
      rwa [hreports]

/-- A second tick changes nothing more: an empty hold stays empty. -/
theorem tick_world_world (script : Script) (tolerance : Tolerance) (drone : Drone) :
    (script.tick Registry.builtIn tolerance
      (script.tick Registry.builtIn tolerance drone).world).world =
        (script.tick Registry.builtIn tolerance drone).world := by
  rcases script.world_of_tick tolerance drone with ⟨-, hworld⟩ | ⟨-, hworld⟩
  · rw [hworld]
    rcases script.world_of_tick tolerance drone.emptied with ⟨-, hworld'⟩ | ⟨-, hworld'⟩
    · exact hworld'
    · exact hworld'
  · rw [hworld]
    exact hworld

/-- With the commands that every drone understands, a tick changes nothing of a drone
but the amount of its cargo, and that only if it reports the depositing: then the hold
is empty afterwards.  A tick without such a report, also one that stops with a fault,
leaves the drone as it was.  A tick that is repeated any number of times leaves the
drone as it was left the first time. -/
theorem tick_builtIn_world (script : Script) (tolerance : Tolerance) (drone : Drone) :
    let outcome := script.tick Registry.builtIn tolerance drone
    (outcome.ReportsDeposit →
      outcome.world = { drone with cargoAmount := Drone.real 0 }) ∧
    (¬ outcome.ReportsDeposit → outcome.world = drone) ∧
    ∀ n, (fun drone => (script.tick Registry.builtIn tolerance drone).world)^[n + 1] drone =
      outcome.world := by
  intro outcome
  have hworld := script.world_of_tick tolerance drone
  change outcome.ReportsDeposit ∧ outcome.world = _ ∨ _ at hworld
  refine ⟨?_, ?_, ?_⟩
  · intro hreports
    rcases hworld with ⟨-, hemptied⟩ | ⟨hnot, -⟩
    · exact hemptied
    · exact absurd hreports hnot
  · intro hnot
    rcases hworld with ⟨hreports, -⟩ | ⟨-, hsame⟩
    · exact absurd hreports hnot
    · exact hsame
  · intro n
    rw [Function.iterate_succ_apply]
    exact Function.iterate_fixed (script.tick_world_world tolerance drone) n

end Script

end Autopilot
