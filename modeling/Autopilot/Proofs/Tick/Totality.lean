import Autopilot.Proofs.Number.Numeral
import Autopilot.Proofs.Number.Range
import Autopilot.Proofs.Reading.Spelled
import Autopilot.Proofs.Tick.Deposit
import Autopilot.Proofs.Validation.Soundness

/-!
# Ticks that no fault stops

A tick can stop at a number that cannot be written or compared, at a literal that is no
numeral, and at a line below one.  None of this happens to a script that was read from a
text, with the commands that every drone understands, if the numbers of the drone are in
the range of the reals: such a tick gives a result.
-/

namespace Autopilot

/-- The numbers of a drone are in the range of the reals. -/
structure Drone.InRange (drone : Drone) : Prop where
  battery : drone.battery.InRange
  hp : drone.hp.InRange
  cargoAmount : drone.cargoAmount.InRange
  maxCargo : drone.maxCargo.InRange
  position : drone.position.1.InRange ∧ drone.position.2.InRange

variable {drone left : Drone} {tolerance : Tolerance} {fault : Fault}

namespace Drone

theorem InRange.exists_describe (h : drone.InRange) :
    ∃ text, drone.describe = .ok text := by
  obtain ⟨battery, hbattery⟩ := h.battery.exists_fixedText
  obtain ⟨hp, hhp⟩ := h.hp.exists_fixedText
  obtain ⟨cargo, hcargo⟩ := h.cargoAmount.exists_briefText
  obtain ⟨capacity, hcapacity⟩ := h.maxCargo.exists_briefText
  rw [describe, hbattery, hhp, hcargo, hcapacity]
  exact ⟨_, rfl⟩

/-- The value of every variable is one of the numbers of the drone. -/
theorem InRange.of_number (h : drone.InRange) {name : String} {value : Number}
    (hvalue : drone.number name = .ok value) : value.InRange := by
  rw [number] at hvalue
  split at hvalue
  · rename_i read hlookup
    obtain rfl : read drone = value := Except.ok.inj hvalue
    obtain ⟨front, back, htable, -⟩ := List.lookup_eq_some_iff.mp hlookup
    have hmem : (Text.lowercase name, read) ∈ variableTable := by
      rw [htable]
      simp
    simp only [variableTable, List.mem_cons, Prod.mk.injEq, List.not_mem_nil,
      or_false] at hmem
    rcases hmem with ⟨-, rfl⟩ | ⟨-, rfl⟩ | ⟨-, rfl⟩
    · exact h.battery
    · exact h.hp
    · exact h.cargoAmount
  · cases hvalue

end Drone

/-! ## Conditions -/

theorem Operand.exists_literal {raw : String} (h : IsNumeral raw.toList) :
    ∃ x, literal raw = .ok (.real x) := by
  obtain ⟨x, hx⟩ := Binary64.exists_ofText? h
  rw [literal, hx]
  exact ⟨x, rfl⟩

theorem Operand.inRange_of_leaves (h : drone.InRange) {operand : Operand}
    (hspelled : operand.IsSpelled) {value : Number}
    (hvalue : operand.evaluate.Leaves drone (.ok value) left) : value.InRange := by
  cases operand with
  | name name => exact h.of_number (congrArg Prod.fst (Run.leaves_access_iff.mp hvalue))
  | number raw =>
      obtain ⟨x, hx⟩ := exists_literal hspelled
      obtain rfl : .real x = value := Except.ok.inj (hx.symm.trans hvalue.1)
      exact Number.inRange_real x

theorem Operand.stops_at_unknownName {operand : Operand} (hspelled : operand.IsSpelled)
    (hfault : operand.evaluate.Leaves drone (.error fault) left) :
    ∃ kind name, fault = .unknownName kind name := by
  cases operand with
  | name name =>
      have hnumber := congrArg Prod.fst (Run.leaves_access_iff.mp hfault)
      exact ⟨_, _, (Drone.number_eq_error hnumber).1⟩
  | number raw =>
      obtain ⟨x, hx⟩ := exists_literal hspelled
      cases hx.symm.trans hfault.1

namespace Condition

theorem exists_comparisonLine (name : String) (comparator : Comparator) (right : Operand)
    {leftValue rightValue : Number} (hleft : leftValue.InRange)
    (hright : rightValue.InRange) (result : Bool) :
    ∃ line, comparisonLine name comparator right leftValue rightValue result = .ok line := by
  obtain ⟨leftText, hleftText⟩ := hleft.exists_briefText
  obtain ⟨rightText, hrightText⟩ := hright.exists_briefText
  rw [comparisonLine, hleftText, hrightText]
  exact ⟨_, rfl⟩

theorem comparison_stops_at_unknownName (h : drone.InRange) {name : String}
    {comparator : Comparator} {right : Operand} (hspelled : right.IsSpelled)
    (hfault : ((comparison name comparator right).evaluate tolerance).Leaves drone
      (.error fault) left) : ∃ kind name, fault = .unknownName kind name := by
  rw [evaluate, Run.leaves_bind_error_iff, Run.leaves_access_iff] at hfault
  rcases hfault with hleft | ⟨leftValue, afterLeft, hleft, hfault⟩
  · exact ⟨_, _, (Drone.number_eq_error (congrArg Prod.fst hleft)).1⟩
  obtain ⟨hleftValue, rfl⟩ := Prod.mk.inj (Run.leaves_access_iff.mp hleft)
  have hleftRange := h.of_number hleftValue
  rw [Run.leaves_bind_error_iff] at hfault
  rcases hfault with hright | ⟨rightValue, afterRight, hright, hfault⟩
  · exact right.stops_at_unknownName hspelled hright
  have hrightRange := Operand.inRange_of_leaves h hspelled hright
  -- Both values are in range: what is left computes with them and cannot fail.
  rw [Run.leaves_bind_error_iff] at hfault
  rcases hfault with hcompare | ⟨result, afterCompare, -, hfault⟩
  · obtain ⟨result, hresult⟩ :=
      comparator.exists_compare hleftRange hrightRange tolerance.epsilon
    cases hresult.symm.trans hcompare.1
  rw [Run.leaves_bind_error_iff] at hfault
  rcases hfault with hline | ⟨line, afterLine, -, hfault⟩
  · obtain ⟨line, htext⟩ :=
      exists_comparisonLine name comparator right hleftRange hrightRange result
    cases htext.symm.trans hline.1
  · rw [Run.leaves_write_bind_iff, Run.leaves_pure_iff] at hfault
    cases hfault.1

/-- In a drone with numbers in range a spelled condition stops only at an unknown
name. -/
theorem stops_at_unknownName (h : drone.InRange) {condition : Condition}
    (hspelled : condition.IsSpelled)
    (hfault : (condition.evaluate tolerance).Leaves drone (.error fault) left) :
    ∃ kind name, fault = .unknownName kind name := by
  induction condition generalizing left with
  | comparison name comparator right =>
      exact comparison_stops_at_unknownName h hspelled.2 hfault
  | query name =>
      rw [evaluate, Run.leaves_bind_error_iff, Run.leaves_access_iff] at hfault
      rcases hfault with hflag | ⟨value, afterQuery, -, hfault⟩
      · exact ⟨_, _, (Drone.flag_eq_error (congrArg Prod.fst hflag)).1⟩
      · rw [Run.leaves_write_bind_iff, Run.leaves_pure_iff] at hfault
        cases hfault.1
  | logical first connective second ihFirst ihSecond =>
      rw [evaluate, Run.leaves_bind_error_iff] at hfault
      rcases hfault with hfirst | ⟨value, middle, hfirst, hfault⟩
      · exact ihFirst hspelled.1 hfirst
      · have hkeeps := Drone.isSteady.keeps_evaluate tolerance first
        rw [hkeeps.eq_of_leaves hfirst] at hfault
        by_cases hdecided : connective.isDecidedBy value = true
        · rw [if_pos hdecided, Run.leaves_write_bind_iff, Run.leaves_pure_iff] at hfault
          cases hfault.1
        · rw [if_neg hdecided, Run.leaves_bind_error_iff] at hfault
          rcases hfault with hsecond | ⟨value', middle', -, hfault⟩
          · exact ihSecond hspelled.2 hsecond
          · rw [Run.leaves_write_bind_iff, Run.leaves_pure_iff] at hfault
            cases hfault.1

end Condition

/-! ## Statements and ticks -/

namespace Statement

variable {statement : Statement}

theorem carryOut_ne_error (h : drone.InRange) (hline : 1 ≤ statement.line) :
    ¬ (statement.carryOut Registry.builtIn).Leaves drone (.error fault) left := by
  intro hfault
  obtain ⟨text, hcargo⟩ := h.cargoAmount.exists_briefText
  cases carried_of_carryOut hcargo hfault with
  | unknown hposition =>
      rw [Position.lineStart_of_le hline] at hposition
      cases hposition

/-- A statement that was read from a text is run without a fault: unknown names are
turned into failures. -/
theorem run_ne_error (h : drone.InRange) (hread : statement.IsRead) :
    ¬ (statement.run Registry.builtIn tolerance).Leaves drone (.error fault) left := by
  intro hfault
  rcases Run.leaves_rescue_iff.mp hfault with ⟨kind, name, middle, -, hfail⟩ |
    ⟨hattempt, hnameless⟩
  · have hposition := (leaves_fail_iff.mp hfail).1
    rw [Position.lineStart_of_le hread.line_pos] at hposition
    cases hposition
  rcases leaves_attempt_iff.mp hattempt with ⟨reached, carried, hreached, hcarried, hresult⟩ |
    ⟨_, _, _, hresult⟩ | ⟨condition, htrigger, fault', hvalue, hresult⟩
  · rw [Drone.isSteady.eq_of_reaches hreached, map_eq_error_iff.mp hresult] at hcarried
    exact carryOut_ne_error h hread.line_pos hcarried
  · cases hresult
  · have hspelled : condition.IsSpelled := by
      have htested := hread.spelled.1
      rw [htrigger] at htested
      exact htested
    obtain ⟨kind, name, rfl⟩ := Condition.stops_at_unknownName h hspelled hvalue
    exact hnameless kind name hresult.symm

end Statement

namespace Script

theorem runStatements_ne_error (h : drone.InRange) {statements : List Statement}
    (hread : ∀ statement ∈ statements, statement.IsRead) :
    ¬ (runStatements Registry.builtIn tolerance statements).Leaves drone (.error fault)
      left := by
  obtain ⟨text, hcargo⟩ := h.cargoAmount.exists_briefText
  induction statements with
  | nil =>
      intro hfault
      cases hfault.1
  | cons statement rest ih =>
      obtain ⟨hfirst, hothers⟩ := List.forall_mem_cons.mp hread
      intro hfault
      rcases leaves_runStatements_cons_iff.mp hfault with ⟨middle, hpassed, hrest⟩ |
        ⟨ending, -, hresult⟩ | ⟨fault', hrun, -⟩
      · rw [Statement.eq_of_isPassed hcargo hpassed] at hrest
        exact ih hothers hrest
      · cases hresult
      · exact Statement.run_ne_error h hfirst hrun

/-- A script that was read from a text gives a tick in a drone with numbers in range. -/
theorem exists_tick (h : drone.InRange) {script : Script}
    (hread : ∀ statement ∈ script.statements, statement.IsRead) (tolerance : Tolerance) :
    ∃ tick, (script.tick Registry.builtIn tolerance drone).tick = .ok tick := by
  obtain ⟨description, hdescribe⟩ := h.exists_describe
  have htick : (script.tick Registry.builtIn tolerance drone).tick = _ :=
    (tick_of_describe hdescribe).1
  cases hresult : (runStatements Registry.builtIn tolerance script.statements drone).result with
  | error fault => exact absurd ⟨hresult, rfl⟩ (runStatements_ne_error h hread)
  | ok ending =>
      rw [hresult] at htick
      exact ⟨_, htick⟩

end Script

end Autopilot
