import Autopilot.Proofs.Tick.Leaving
import Autopilot.Tick.Evaluation

/-!
# Running a statement

What running a statement leaves is found in three steps: its command is carried out if
it is reached, a condition that holds ends the tick in any case, and a name that the
world does not know is turned into a failure.
-/

namespace Autopilot

variable {σ : Type}

namespace Statement

/-- The remark on the command of a statement that has no handler. -/
def unknownCommandRemark (statement : Statement) (position : Position) : Diagnostic :=
  Remark.missingCommand.placed position
    (some ("Unknown command `" ++ statement.command.name ++ "`.")) none

/-- The remark on a name that the world does not know. -/
def unknownNameRemark (kind : NameKind) (name : String) (position : Position) :
    Diagnostic :=
  (missing kind).placed position
    (some ("Unknown " ++ kind.word ++ " `" ++ name ++ "`.")) none

section Semantics

variable [World σ] (registry : Registry σ) (tolerance : Tolerance) (statement : Statement)

/-- The command of a statement is reached, in a world that looking at the condition may
have changed: there is no condition, or it holds. -/
inductive Reaches : σ → σ → Prop
  | unconditional {world : σ} (hkind : statement.kind ≠ .conditional) :
      Reaches world world
  | holds {world left : σ} {condition : Condition}
      (htrigger : statement.trigger = .condition condition)
      (hvalue : (condition.evaluate tolerance).Leaves world (.ok true) left) :
      Reaches world left

/-- A statement asks the world for a name that the world does not know: in its
condition, or in the handler of its command. -/
inductive Misses (kind : NameKind) (name : String) : σ → σ → Prop
  | inCondition {world left : σ} {condition : Condition}
      (htrigger : statement.trigger = .condition condition)
      (hvalue : (condition.evaluate tolerance).Leaves world
        (.error (.unknownName kind name)) left) :
      Misses kind name world left
  | inHandler {world reached left : σ} {handler : Handler σ}
      (hreached : statement.Reaches tolerance world reached)
      (hhandler : registry.lookup statement.command.name = some handler)
      (hcall : handler statement.command reached =
        (.error (.unknownName kind name), left)) :
      Misses kind name world left

end Semantics

variable {registry : Registry σ} {tolerance : Tolerance} {statement : Statement}
  {world left : σ}

/-! ## Carrying out the command -/

theorem nameless_lineStart (line : Int) : Nameless (Position.lineStart line) := by
  intro kind name
  rw [Position.lineStart, Position.ofInts?]
  split <;> simp

/-- How the report of a handler ends the tick. -/
def endingOf (statement : Statement) (outcome : Outcome) : Option Ending :=
  if outcome.performed then
    some (.acted ⟨statement.command, statement.line, statement.kind, outcome.messages⟩)
  else none

theorem endingOf_of_performed {outcome : Outcome} (h : outcome.performed = true) :
    statement.endingOf outcome = some (.acted
      ⟨statement.command, statement.line, statement.kind, outcome.messages⟩) := by
  rw [endingOf, if_pos h]

theorem endingOf_eq_none_iff {outcome : Outcome} :
    statement.endingOf outcome = none ↔ outcome.performed = false := by
  simp [endingOf]

theorem leaves_carryOut_iff_of_none {result : Except Fault (Option Ending)}
    (h : registry.lookup statement.command.name = none) :
    (statement.carryOut registry).Leaves world result left ↔
      ((Position.lineStart statement.line).map fun position =>
        some (.unhandled statement.line (statement.unknownCommandRemark position))) =
          result ∧ world = left := by
  simp only [carryOut, Run.leaves_write_bind_iff, h, Run.leaves_bind_pure_iff, unhandled,
    Run.leaves_record_bind_iff, Run.leaves_lift_iff]
  constructor
  · rintro ⟨_, ⟨_, ⟨rfl, rfl⟩, rfl⟩, rfl⟩
    refine ⟨?_, rfl⟩
    cases Position.lineStart statement.line
    · rfl
    · rfl
  · rintro ⟨rfl, rfl⟩
    refine ⟨_, ⟨_, ⟨rfl, rfl⟩, rfl⟩, ?_⟩
    cases Position.lineStart statement.line
    · rfl
    · rfl

theorem leaves_carryOut_iff_of_some {result : Except Fault (Option Ending)}
    {handler : Handler σ} (h : registry.lookup statement.command.name = some handler) :
    (statement.carryOut registry).Leaves world result left ↔
      ∃ reported, handler statement.command world = (reported, left) ∧
        reported.map statement.endingOf = result := by
  simp only [carryOut, Run.leaves_write_bind_iff, h]
  rw [Run.leaves_bind_iff_of_gives statement.endingOf]
  · simp only [Run.leaves_access_iff]
  · intro outcome middle
    rw [Run.leaves_writeAll_bind_iff, endingOf]
    by_cases hperformed : outcome.performed = true
    · rw [if_pos hperformed, if_pos hperformed]
      exact ⟨rfl, rfl⟩
    · rw [if_neg hperformed, if_neg hperformed]
      exact ⟨rfl, rfl⟩

theorem leaves_carryOut_ok_iff {ending? : Option Ending} :
    (statement.carryOut registry).Leaves world (.ok ending?) left ↔
      (∃ position, registry.lookup statement.command.name = none ∧
        Position.lineStart statement.line = .ok position ∧ world = left ∧
        some (.unhandled statement.line (statement.unknownCommandRemark position)) =
          ending?) ∨
      ∃ handler outcome, registry.lookup statement.command.name = some handler ∧
        handler statement.command world = (.ok outcome, left) ∧
        statement.endingOf outcome = ending? := by
  cases hlookup : registry.lookup statement.command.name with
  | none =>
      rw [leaves_carryOut_iff_of_none hlookup, map_eq_ok_iff]
      constructor
      · rintro ⟨⟨position, hposition, hending⟩, hworld⟩
        exact Or.inl ⟨position, rfl, hposition, hworld, hending⟩
      · rintro (⟨position, -, hposition, hworld, hending⟩ | ⟨handler, _, hnone, -⟩)
        · exact ⟨⟨position, hposition, hending⟩, hworld⟩
        · cases hnone
  | some handler =>
      rw [leaves_carryOut_iff_of_some hlookup]
      constructor
      · rintro ⟨reported, hcall, hending⟩
        obtain ⟨outcome, rfl, hgiven⟩ := map_eq_ok_iff.mp hending
        exact Or.inr ⟨handler, outcome, rfl, hcall, hgiven⟩
      · rintro (⟨_, hsome, -⟩ | ⟨handler', outcome, hsome, hcall, hending⟩)
        · cases hsome
        · obtain rfl : handler = handler' := Option.some.inj hsome
          exact ⟨_, hcall, map_eq_ok_iff.mpr ⟨outcome, rfl, hending⟩⟩

/-- An unknown name in the command is one that its handler asked for. -/
theorem leaves_carryOut_unknownName_iff {kind : NameKind} {name : String} :
    (statement.carryOut registry).Leaves world (.error (.unknownName kind name)) left ↔
      ∃ handler, registry.lookup statement.command.name = some handler ∧
        handler statement.command world = (.error (.unknownName kind name), left) := by
  cases hlookup : registry.lookup statement.command.name with
  | none =>
      rw [leaves_carryOut_iff_of_none hlookup, map_eq_error_iff]
      constructor
      · rintro ⟨hposition, -⟩
        exact absurd hposition (nameless_lineStart statement.line kind name)
      · rintro ⟨handler, hnone, -⟩
        cases hnone
  | some handler =>
      rw [leaves_carryOut_iff_of_some hlookup]
      constructor
      · rintro ⟨reported, hcall, hfault⟩
        obtain rfl := map_eq_error_iff.mp hfault
        exact ⟨handler, rfl, hcall⟩
      · rintro ⟨handler', hsome, hcall⟩
        obtain rfl : handler = handler' := Option.some.inj hsome
        exact ⟨_, hcall, rfl⟩

/-! ## Trying the statement -/

/-- How a statement whose command was carried out ends the tick: a condition that holds
ends it in any case. -/
def settled (statement : Statement) (ending? : Option Ending) : Option Ending :=
  match statement.trigger with
  | .condition _ => some (ending?.getD (.idle statement.line))
  | _ => ending?

theorem settled_of_condition {condition : Condition}
    (h : statement.trigger = .condition condition) :
    statement.settled = fun ending? => some (ending?.getD (.idle statement.line)) := by
  funext ending?
  rw [settled, h]

theorem settled_of_kind (h : statement.kind ≠ .conditional) :
    statement.settled = id := by
  funext ending?
  rw [settled]
  split
  · rename_i htrigger
    rw [kind, htrigger] at h
    exact absurd rfl h
  · rfl

theorem leaves_fail_iff {kind : NameKind} {name : String}
    {result : Except Fault (Option Ending)} :
    (statement.fail kind name).Leaves world result left ↔
      ((Position.lineStart statement.line).map fun position =>
        some (.failed ⟨kind, name, statement.line,
          unknownNameRemark kind name position⟩)) = result ∧ world = left := by
  rw [fail, Run.leaves_bind_pure_iff]
  simp only [Run.leaves_lift_iff]
  constructor
  · rintro ⟨_, ⟨rfl, rfl⟩, rfl⟩
    exact ⟨rfl, rfl⟩
  · rintro ⟨rfl, rfl⟩
    exact ⟨_, ⟨rfl, rfl⟩, rfl⟩

theorem settled_some (ending : Ending) :
    statement.settled (some ending) = some ending := by
  rw [settled]
  split
  · rfl
  · rfl

theorem exists_condition_of_kind (h : statement.kind = .conditional) :
    ∃ condition, statement.trigger = .condition condition := by
  rw [kind] at h
  cases htrigger : statement.trigger with
  | condition condition => exact ⟨condition, rfl⟩
  | _ =>
      rw [htrigger] at h
      cases h

/-- Only a statement without a condition goes on to the next one after its command. -/
theorem settled_none (statement : Statement) :
    statement.settled none =
      if statement.kind = .conditional then some (.idle statement.line) else none := by
  by_cases hkind : statement.kind = .conditional
  · obtain ⟨condition, htrigger⟩ := exists_condition_of_kind hkind
    rw [if_pos hkind, settled_of_condition htrigger]
    rfl
  · rw [if_neg hkind, settled_of_kind hkind]
    rfl

variable [World σ]

theorem leaves_attempt_iff_of_kind {result : Except Fault (Option Ending)}
    (h : statement.kind ≠ .conditional) :
    (statement.attempt registry tolerance).Leaves world result left ↔
      (statement.carryOut registry).Leaves world result left := by
  rw [attempt]
  rw [kind] at h
  cases htrigger : statement.trigger with
  | condition condition =>
      rw [htrigger] at h
      exact absurd rfl h
  | fallback => exact Run.leaves_write_bind_iff
  | always => exact Run.leaves_write_bind_iff

theorem leaves_attempt_iff_of_condition {result : Except Fault (Option Ending)}
    {condition : Condition} (h : statement.trigger = .condition condition) :
    (statement.attempt registry tolerance).Leaves world result left ↔
      (∃ reached carried, (condition.evaluate tolerance).Leaves world (.ok true) reached ∧
        (statement.carryOut registry).Leaves reached carried left ∧
        carried.map statement.settled = result) ∨
      (condition.evaluate tolerance).Leaves world (.ok false) left ∧ .ok none = result ∨
      ∃ fault, (condition.evaluate tolerance).Leaves world (.error fault) left ∧
        .error fault = result := by
  simp only [attempt, h, Run.leaves_write_bind_iff]
  rw [Run.leaves_bind_iff, settled_of_condition h]
  constructor
  · rintro (⟨value, reached, hvalue, hrest⟩ | ⟨fault, hvalue, hresult⟩)
    · cases value with
      | true =>
          rw [if_pos rfl, Run.leaves_write_bind_iff, Run.leaves_bind_pure_iff] at hrest
          obtain ⟨carried, hcarried, hresult⟩ := hrest
          exact Or.inl ⟨reached, carried, hvalue, hcarried, hresult⟩
      | false =>
          rw [if_neg Bool.false_ne_true, Run.leaves_write_bind_iff,
            Run.leaves_pure_iff] at hrest
          obtain ⟨hresult, rfl⟩ := hrest
          exact Or.inr (Or.inl ⟨hvalue, hresult⟩)
    · exact Or.inr (Or.inr ⟨fault, hvalue, hresult⟩)
  · rintro (⟨reached, carried, hvalue, hcarried, hresult⟩ | ⟨hvalue, hresult⟩ |
      ⟨fault, hvalue, hresult⟩)
    · refine Or.inl ⟨true, reached, hvalue, ?_⟩
      rw [if_pos rfl, Run.leaves_write_bind_iff, Run.leaves_bind_pure_iff]
      exact ⟨carried, hcarried, hresult⟩
    · refine Or.inl ⟨false, left, hvalue, ?_⟩
      rw [if_neg Bool.false_ne_true, Run.leaves_write_bind_iff, Run.leaves_pure_iff]
      exact ⟨hresult, rfl⟩
    · exact Or.inr ⟨fault, hvalue, hresult⟩

theorem reaches_iff_of_kind (h : statement.kind ≠ .conditional) {reached : σ} :
    statement.Reaches tolerance world reached ↔ world = reached := by
  constructor
  · rintro (hkind | ⟨htrigger, -⟩)
    · rfl
    · rw [kind, htrigger] at h
      exact absurd rfl h
  · rintro rfl
    exact .unconditional h

theorem reaches_iff_of_condition {condition : Condition}
    (h : statement.trigger = .condition condition) {reached : σ} :
    statement.Reaches tolerance world reached ↔
      (condition.evaluate tolerance).Leaves world (.ok true) reached := by
  constructor
  · rintro (hkind | ⟨htrigger, hvalue⟩)
    · rw [kind, h] at hkind
      exact absurd rfl hkind
    · obtain rfl : condition = _ := Trigger.condition.inj (h.symm.trans htrigger)
      exact hvalue
  · intro hvalue
    exact .holds h hvalue

/-- Trying a statement leaves what its command leaves if the command is reached; a
condition that does not hold leaves nothing to do, and one that stops with a fault
leaves the fault. -/
theorem leaves_attempt_iff {result : Except Fault (Option Ending)} :
    (statement.attempt registry tolerance).Leaves world result left ↔
      (∃ reached carried, statement.Reaches tolerance world reached ∧
        (statement.carryOut registry).Leaves reached carried left ∧
        carried.map statement.settled = result) ∨
      (∃ condition, statement.trigger = .condition condition ∧
        (condition.evaluate tolerance).Leaves world (.ok false) left ∧
        .ok none = result) ∨
      ∃ condition, statement.trigger = .condition condition ∧
        ∃ fault, (condition.evaluate tolerance).Leaves world (.error fault) left ∧
          .error fault = result := by
  cases htrigger : statement.trigger with
  | condition condition =>
      rw [leaves_attempt_iff_of_condition htrigger]
      simp only [reaches_iff_of_condition htrigger, Trigger.condition.injEq,
        exists_eq_left']
  | _ =>
      have hkind : statement.kind ≠ .conditional := by
        rw [kind, htrigger]
        decide
      rw [leaves_attempt_iff_of_kind hkind, settled_of_kind hkind]
      simp [reaches_iff_of_kind hkind]

/-- A statement fails in trying it exactly if it asks for an unknown name. -/
theorem misses_iff {kind : NameKind} {name : String} :
    statement.Misses registry tolerance kind name world left ↔
      (statement.attempt registry tolerance).Leaves world
        (.error (.unknownName kind name)) left := by
  rw [leaves_attempt_iff]
  constructor
  · rintro (⟨htrigger, hvalue⟩ | ⟨hreached, hhandler, hcall⟩)
    · exact Or.inr (Or.inr ⟨_, htrigger, _, hvalue, rfl⟩)
    · have hcarried := leaves_carryOut_unknownName_iff.mpr ⟨_, hhandler, hcall⟩
      exact Or.inl ⟨_, _, hreached, hcarried, rfl⟩
  · rintro (⟨reached, carried, hreached, hcarried, hresult⟩ | ⟨_, _, _, hresult⟩ |
      ⟨condition, htrigger, fault, hvalue, hresult⟩)
    · rw [map_eq_error_iff.mp hresult] at hcarried
      obtain ⟨handler, hhandler, hcall⟩ := leaves_carryOut_unknownName_iff.mp hcarried
      exact .inHandler hreached hhandler hcall
    · cases hresult
    · cases hresult
      exact .inCondition htrigger hvalue

/-- How a statement that was tried ends the tick: as trying it says, or with a failure
if it asked for an unknown name. -/
theorem leaves_run_ok_iff {ending? : Option Ending} :
    (statement.run registry tolerance).Leaves world (.ok ending?) left ↔
      (statement.attempt registry tolerance).Leaves world (.ok ending?) left ∨
      ∃ kind name position, statement.Misses registry tolerance kind name world left ∧
        Position.lineStart statement.line = .ok position ∧
        some (.failed ⟨kind, name, statement.line,
          unknownNameRemark kind name position⟩) = ending? := by
  rw [run, Run.leaves_rescue_iff]
  constructor
  · rintro (⟨kind, name, middle, hmisses, hfail⟩ | ⟨hattempt, -⟩)
    · obtain ⟨hresult, rfl⟩ := leaves_fail_iff.mp hfail
      obtain ⟨position, hposition, hending⟩ := map_eq_ok_iff.mp hresult
      exact Or.inr ⟨kind, name, position, misses_iff.mpr hmisses, hposition, hending⟩
    · exact Or.inl hattempt
  · rintro (hattempt | ⟨kind, name, position, hmisses, hposition, hending⟩)
    · exact Or.inr ⟨hattempt, nameless_ok _⟩
    · refine Or.inl ⟨kind, name, left, misses_iff.mp hmisses, leaves_fail_iff.mpr ?_⟩
      exact ⟨map_eq_ok_iff.mpr ⟨position, hposition, hending⟩, rfl⟩

/-- A statement whose command is reached and carried out ends the tick as its trigger
settles it. -/
theorem Reaches.leaves_run {reached : σ} {ending? : Option Ending}
    (hreached : statement.Reaches tolerance world reached)
    (hcarried : (statement.carryOut registry).Leaves reached (.ok ending?) left) :
    (statement.run registry tolerance).Leaves world (.ok (statement.settled ending?))
      left := by
  apply leaves_run_ok_iff.mpr
  apply Or.inl
  exact leaves_attempt_iff.mpr (Or.inl ⟨_, _, hreached, hcarried, rfl⟩)

end Statement

end Autopilot
