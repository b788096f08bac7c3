import Autopilot.Proofs.Command.BuiltIn
import Autopilot.Proofs.Script.Casing
import Autopilot.Proofs.Tick.Alike
import Autopilot.Proofs.Tick.Decision
import Autopilot.World.Drone

/-!
# Ticks and letter case

The letter case of names does not decide what a script does, if the world and the
handlers do not look at it.  Two scripts that differ in it have ticks that are decided by
the same statement in the same way; only the traces and the names that are reported tell
them apart.
-/

namespace Autopilot

/-- All lines of traces are taken for the same, and so are names that are the same in
lower case. -/
def Leeway.ofCase : Leeway where
  line _ _ := True
  name := SameInLowercase
  line_refl _ := trivial
  name_refl _ := rfl

/-- All lines of traces are taken for the same, but no two names. -/
def Leeway.ofTrace : Leeway where
  line _ _ := True
  name := Eq
  line_refl _ := trivial
  name_refl _ := rfl

/-- A world answers names that are the same in lower case alike. -/
structure World.IgnoresCase (σ : Type) [World σ] : Prop where
  flag {name name' : String} (h : SameInLowercase name name') :
    Leeway.ofCase.Accesses Eq (World.flag name : Access σ Bool) (World.flag name')
  number {name name' : String} (h : SameInLowercase name name') :
    Leeway.ofCase.Accesses Eq (World.number name : Access σ Number) (World.number name')

/-- The handlers of a registry do not look at the letter case of the name by which they
are called. -/
def Registry.IgnoresCase {σ : Type} (registry : Registry σ) : Prop :=
  ∀ (command command' : Command) (handler : Handler σ),
    command.SameBesideCase command' → registry.lookup command.name = some handler →
      handler command = handler command'

theorem Registry.lookup_of_sameInLowercase {σ : Type} (registry : Registry σ)
    {name name' : String} (h : SameInLowercase name name') :
    registry.lookup name = registry.lookup name' := by
  rw [lookup, lookup, h]

theorem Drone.results_flag {name name' : String} (h : SameInLowercase name name')
    (drone : Drone) :
    Leeway.ofCase.Results Eq (drone.flag name) (drone.flag name') := by
  rw [flag, flag, h]
  cases queryTable.lookup (Text.lowercase name') with
  | none => exact .error (.unknownName .query h)
  | some query => exact .ok rfl

theorem Drone.results_number {name name' : String} (h : SameInLowercase name name')
    (drone : Drone) :
    Leeway.ofCase.Results Eq (drone.number name) (drone.number name') := by
  rw [number, number, h]
  cases variableTable.lookup (Text.lowercase name') with
  | none => exact .error (.unknownName .variable h)
  | some value => exact .ok rfl

theorem Drone.ignoresCase : World.IgnoresCase Drone where
  flag h drone := ⟨_, _, drone, rfl, rfl, results_flag h drone⟩
  number h drone := ⟨_, _, drone, rfl, rfl, results_number h drone⟩

/-- The commands of the drone look at their arguments only. -/
theorem BuiltIn.handle_of_arguments {σ : Type} [World σ] (builtIn : BuiltIn)
    {command command' : Command} (h : command.arguments = command'.arguments) :
    (builtIn.handle : Handler σ) command = builtIn.handle command' := by
  funext world
  simp only [handle, h]

theorem Registry.ignoresCase_builtIn {σ : Type} [World σ] :
    (Registry.builtIn : Registry σ).IgnoresCase := by
  intro command command' handler h hlookup
  rw [lookup_builtIn, Option.map_eq_some_iff] at hlookup
  obtain ⟨builtIn, -, rfl⟩ := hlookup
  exact builtIn.handle_of_arguments h.arguments

/-! ## Conditions -/

section Conditions

variable {σ : Type} [World σ]

theorem Operand.SameBesideCase.runs_evaluate (hworld : World.IgnoresCase σ)
    {operand operand' : Operand} (h : operand.SameBesideCase operand') :
    Leeway.ofCase.Runs Eq (operand.evaluate : Run σ Number) operand'.evaluate := by
  cases h with
  | name hword => exact Leeway.runs_access (hworld.number hword)
  | number raw => exact Leeway.runs_refl Eq.refl _

/-- Whether the line for a comparison can be written depends on the numbers only. -/
theorem Condition.results_comparisonLine (left left' : String) (comparator : Comparator)
    (right right' : Operand) (leftValue rightValue : Number) (result : Bool) :
    Leeway.ofCase.Results (fun _ _ => True)
      (comparisonLine left comparator right leftValue rightValue result)
      (comparisonLine left' comparator right' leftValue rightValue result) := by
  rw [comparisonLine, comparisonLine]
  cases leftValue.briefText with
  | error fault => exact .error (Leeway.faults_refl fault)
  | ok leftText =>
      cases rightValue.briefText with
      | error fault => exact .error (Leeway.faults_refl fault)
      | ok rightText => exact .ok trivial

theorem Condition.SameBesideCase.runs_evaluate (hworld : World.IgnoresCase σ)
    {condition condition' : Condition} (h : condition.SameBesideCase condition')
    (tolerance : Tolerance) :
    Leeway.ofCase.Runs Eq (condition.evaluate tolerance : Run σ Bool)
      (condition'.evaluate tolerance) := by
  induction h with
  | comparison hleft comparator hright =>
      rw [evaluate, evaluate]
      apply Leeway.runs_bind (Leeway.runs_access (hworld.number hleft))
      rintro leftValue _ rfl
      apply Leeway.runs_bind (hright.runs_evaluate hworld)
      rintro rightValue _ rfl
      apply Leeway.runs_bind_same
      intro result
      apply Leeway.runs_bind (Leeway.runs_lift (results_comparisonLine ..))
      intro _ _ _
      apply Leeway.runs_write_bind trivial
      exact Leeway.runs_pure rfl
  | query hname =>
      rw [evaluate, evaluate]
      apply Leeway.runs_bind (Leeway.runs_access (hworld.flag hname))
      rintro result _ rfl
      apply Leeway.runs_write_bind trivial
      exact Leeway.runs_pure rfl
  | logical hleft connective hright ihl ihr =>
      rw [evaluate, evaluate]
      apply Leeway.runs_bind ihl
      rintro leftValue _ rfl
      by_cases hdecided : connective.isDecidedBy leftValue = true
      · rw [if_pos hdecided, if_pos hdecided]
        exact Leeway.runs_refl Eq.refl _
      · rw [if_neg hdecided, if_neg hdecided]
        apply Leeway.runs_bind ihr
        rintro rightValue _ rfl
        exact Leeway.runs_refl Eq.refl _

end Conditions

/-! ## Statements -/

/-- Two ends of a tick differ only in names and in texts that show them. -/
structure Ending.SameBesideCase (ending ending' : Ending) : Prop where
  decision : ending.decision? = ending'.decision?
  action : (ending.action?.map fun action =>
      (action.command.key, action.command.arguments, action.line, action.via,
        action.messages)) =
    ending'.action?.map fun action =>
      (action.command.key, action.command.arguments, action.line, action.via,
        action.messages)
  failure : (ending.failure?.map fun failure => (failure.kind, failure.line)) =
    ending'.failure?.map fun failure => (failure.kind, failure.line)
  diagnostics :
    (ending.diagnostics.map fun diagnostic => (diagnostic.code, diagnostic.position)) =
      ending'.diagnostics.map fun diagnostic => (diagnostic.code, diagnostic.position)

namespace Ending

theorem SameBesideCase.refl (ending : Ending) : ending.SameBesideCase ending :=
  ⟨rfl, rfl, rfl, rfl⟩

theorem sameBesideCase_failed (kind : NameKind) (name name' : String) (line : Int)
    (remark : Remark) (position : Position) (message message' : Option String) :
    (failed ⟨kind, name, line, remark.placed position message none⟩).SameBesideCase
      (failed ⟨kind, name', line, remark.placed position message' none⟩) :=
  ⟨rfl, rfl, rfl, rfl⟩

theorem sameBesideCase_unhandled (line : Int) (remark : Remark) (position : Position)
    (message message' : Option String) :
    (unhandled line (remark.placed position message none)).SameBesideCase
      (unhandled line (remark.placed position message' none)) :=
  ⟨rfl, rfl, rfl, rfl⟩

end Ending

namespace Statement

variable {σ : Type} {registry : Registry σ} {tolerance : Tolerance}
  {statement statement' : Statement}

theorem SameBesideCase.runs_unhandled (h : statement.SameBesideCase statement') :
    Leeway.ofCase.Runs Ending.SameBesideCase (statement.unhandled : Run σ Ending)
      statement'.unhandled := by
  rw [unhandled, unhandled, h.line]
  apply Leeway.runs_write_bind trivial
  apply Leeway.runs_bind (Leeway.runs_record _ _ _ _)
  intro _ _ _
  apply Leeway.runs_bind_same
  intro position
  exact Leeway.runs_pure (Ending.sameBesideCase_unhandled ..)

theorem SameBesideCase.runs_fail (h : statement.SameBesideCase statement')
    (kind : NameKind) (name name' : String) :
    Leeway.ofTrace.Runs (Option.Rel Ending.SameBesideCase)
      (statement.fail kind name : Run σ (Option Ending)) (statement'.fail kind name') := by
  rw [fail, fail, h.line]
  apply Leeway.runs_bind_same
  intro position
  exact Leeway.runs_pure (.some (Ending.sameBesideCase_failed ..))

theorem SameBesideCase.runs_carryOut (hregistry : registry.IgnoresCase)
    (h : statement.SameBesideCase statement') :
    Leeway.ofCase.Runs (Option.Rel Ending.SameBesideCase) (statement.carryOut registry)
      (statement'.carryOut registry) := by
  rw [carryOut, carryOut]
  apply Leeway.runs_write_bind trivial
  rw [← registry.lookup_of_sameInLowercase h.command.name]
  cases hlookup : registry.lookup statement.command.name with
  | none =>
      apply Leeway.runs_bind h.runs_unhandled
      intro ending ending' hending
      exact Leeway.runs_pure (.some hending)
  | some handler =>
      dsimp only
      rw [hregistry _ _ handler h.command hlookup]
      apply Leeway.runs_bind_same
      intro outcome
      apply Leeway.runs_bind_same
      intro _
      by_cases hperformed : outcome.performed = true
      · rw [if_pos hperformed, if_pos hperformed]
        apply Leeway.runs_pure
        refine .some ⟨rfl, ?_, rfl, rfl⟩
        simp only [Ending.action?, Option.map_some, h.command.key, h.command.arguments,
          h.line, h.kind]
      · rw [if_neg hperformed, if_neg hperformed]
        apply Leeway.runs_bind_same
        intro _
        exact Leeway.runs_pure .none

variable [World σ]

theorem SameBesideCase.runs_attempt (hworld : World.IgnoresCase σ)
    (hregistry : registry.IgnoresCase) (h : statement.SameBesideCase statement') :
    Leeway.ofCase.Runs (Option.Rel Ending.SameBesideCase)
      (statement.attempt registry tolerance) (statement'.attempt registry tolerance) := by
  have htrigger := h.trigger
  rw [attempt, attempt]
  generalize statement.trigger = trigger at htrigger ⊢
  generalize statement'.trigger = trigger' at htrigger ⊢
  cases htrigger with
  | condition htested =>
      apply Leeway.runs_write_bind trivial
      apply Leeway.runs_bind (htested.runs_evaluate hworld tolerance)
      rintro value _ rfl
      cases value with
      | false =>
          apply Leeway.runs_bind_same
          intro _
          exact Leeway.runs_pure .none
      | true =>
          apply Leeway.runs_bind_same
          intro _
          apply Leeway.runs_bind (h.runs_carryOut hregistry)
          intro ending? ending?' hending
          apply Leeway.runs_pure
          rw [h.line]
          cases hending with
          | none => exact .some (.refl _)
          | some hending => exact .some hending
  | fallback =>
      apply Leeway.runs_write_bind trivial
      exact h.runs_carryOut hregistry
  | always =>
      apply Leeway.runs_write_bind trivial
      exact h.runs_carryOut hregistry

theorem SameBesideCase.runs_run (hworld : World.IgnoresCase σ)
    (hregistry : registry.IgnoresCase) (h : statement.SameBesideCase statement') :
    Leeway.ofTrace.Runs (Option.Rel Ending.SameBesideCase)
      (statement.run registry tolerance) (statement'.run registry tolerance) := by
  -- An unknown name becomes a failure here, so that only equal faults are left.
  have hline : ∀ text text', Leeway.ofCase.line text text' →
      Leeway.ofTrace.line text text' := by
    intro _ _ _
    trivial
  apply Leeway.runs_rescue hline (h.runs_attempt hworld hregistry)
  intro kind name name' _
  exact h.runs_fail kind name name'

end Statement

/-! ## Ticks -/

/-- Two ticks are decided at the same place of two lists of statements, or both come to
the end of their list. -/
def SamePlace {σ : Type} [World σ] (registry : Registry σ) (tolerance : Tolerance)
    (statements statements' : List Statement) (world : σ) (tick tick' : Tick) (left : σ) :
    Prop :=
  (PassesAll registry tolerance statements world left ∧
      PassesAll registry tolerance statements' world left ∧
      tick.ending = .exhausted ∧ tick'.ending = .exhausted) ∨
    ∃ place, DecidesAt registry tolerance statements world tick left place ∧
      DecidesAt registry tolerance statements' world tick' left place

section Ticks

variable {σ : Type} [World σ] {registry : Registry σ} {tolerance : Tolerance}
  {ending : Ending → Ending → Prop}

/-- Statements that run to an end pass the first one, or it ends the tick. -/
theorem leaves_runStatements_cons_ok {statement : Statement} {rest : List Statement}
    {world left : σ} {given : Ending}
    (h : (Script.runStatements registry tolerance (statement :: rest)).Leaves world
      (.ok given) left) :
    (∃ middle, (statement.run registry tolerance).Leaves world (.ok none) middle ∧
      (Script.runStatements registry tolerance rest).Leaves middle (.ok given) left) ∨
    (statement.run registry tolerance).Leaves world (.ok (some given)) left := by
  rcases leaves_runStatements_cons_iff.mp h with
    ⟨middle, hpassed, hrest⟩ | ⟨given', hrun, hgiven⟩ | ⟨fault, -, hfault⟩
  · exact Or.inl ⟨middle, Statement.isPassed_iff.mp hpassed, hrest⟩
  · rw [Except.ok.inj hgiven] at hrun
    exact Or.inr hrun
  · cases hfault

theorem Statement.decision_eq_of_decides {statement : Statement} {world left : σ}
    {tick : Tick} {decision : Decision}
    (h : statement.Decides registry tolerance world tick left decision)
    (hrun : (statement.run registry tolerance).Leaves world (.ok (some tick.ending)) left) :
    tick.ending.decision? = some decision := by
  obtain ⟨given, hleaves, hdecision⟩ := h.exists_leaves_run
  obtain ⟨hsame, -⟩ := hrun.unique hleaves
  rw [Option.some.inj (Except.ok.inj hsame), hdecision]

/-- Statements that end two ticks in one way decide them in one way. -/
theorem Statement.exists_decides_both {statement statement' : Statement} {world left : σ}
    {tick tick' : Tick} (hsame : tick.ending.decision? = tick'.ending.decision?)
    (hrun : (statement.run registry tolerance).Leaves world (.ok (some tick.ending)) left)
    (hrun' : (statement'.run registry tolerance).Leaves world (.ok (some tick'.ending))
      left) :
    ∃ decision, statement.Decides registry tolerance world tick left decision ∧
      statement'.Decides registry tolerance world tick' left decision := by
  obtain ⟨decision, hdecides⟩ := exists_decides hrun
  obtain ⟨decision', hdecides'⟩ := exists_decides hrun'
  rw [decision_eq_of_decides hdecides hrun, decision_eq_of_decides hdecides' hrun'] at hsame
  rw [← Option.some.inj hsame] at hdecides'
  exact ⟨decision, hdecides, hdecides'⟩

/-- Statements that run alike one by one, so that they end a tick in one way, are passed
and decide alike. -/
theorem samePlace_of_runs {leeway : Leeway} {statements statements' : List Statement}
    (h : List.Forall₂ (fun statement statement' : Statement =>
      leeway.Runs (Option.Rel ending) (statement.run registry tolerance)
        (statement'.run registry tolerance)) statements statements')
    (hdecision : ∀ given given', ending given given' → given.decision? = given'.decision?)
    {world left : σ} {tick tick' : Tick}
    (hrun : (Script.runStatements registry tolerance statements).Leaves world
      (.ok tick.ending) left)
    (hrun' : (Script.runStatements registry tolerance statements').Leaves world
      (.ok tick'.ending) left) :
    SamePlace registry tolerance statements statements' world tick tick' left := by
  induction h generalizing world with
  | nil =>
      obtain ⟨hending, rfl⟩ := hrun
      obtain ⟨hending', -⟩ := hrun'
      exact Or.inl ⟨.nil, .nil, (Except.ok.inj hending).symm, (Except.ok.inj hending').symm⟩
  | cons halike _ ih =>
      rcases leaves_runStatements_cons_ok hrun with ⟨middle, hpassed, hrest⟩ | hfirst
      · rcases leaves_runStatements_cons_ok hrun' with ⟨middle', hpassed', hrest'⟩ | hfirst'
        · obtain ⟨-, rfl⟩ := halike.of_leaves_ok hpassed hpassed'
          have hpassed := Statement.isPassed_iff.mpr hpassed
          have hpassed' := Statement.isPassed_iff.mpr hpassed'
          rcases ih hrest hrest' with
            ⟨hpasses, hpasses', hending⟩ | ⟨⟨k, decision⟩, hdecides, hdecides'⟩
          · exact Or.inl ⟨.cons hpassed hpasses, .cons hpassed' hpasses', hending⟩
          · exact Or.inr ⟨(k + 1, decision), decidesAt_succ_iff.mpr ⟨_, hpassed, hdecides⟩,
              decidesAt_succ_iff.mpr ⟨_, hpassed', hdecides'⟩⟩
        · cases (halike.of_leaves_ok hpassed hfirst').1
      · rcases leaves_runStatements_cons_ok hrun' with ⟨middle', hpassed', -⟩ | hfirst'
        · cases (halike.of_leaves_ok hfirst hpassed').1
        · cases (halike.of_leaves_ok hfirst hfirst').1 with
          | some hending =>
              obtain ⟨decision, hdecides, hdecides'⟩ :=
                Statement.exists_decides_both (hdecision _ _ hending) hfirst hfirst'
              exact Or.inr ⟨(0, decision), decidesAt_zero_iff.mpr hdecides,
                decidesAt_zero_iff.mpr hdecides'⟩

/-- Scripts that differ in letter case do the same in a world that ignores it: they
leave the same world, and stop with the same fault or are decided at the same place in
the same way. -/
theorem Script.tick_sameBesideCase {script script' : Script}
    (h : script.SameBesideCase script') (hworld : World.IgnoresCase σ)
    (hregistry : registry.IgnoresCase) (world : σ) :
    let outcome := script.tick registry tolerance world
    let outcome' := script'.tick registry tolerance world
    outcome.world = outcome'.world ∧
      ((∃ fault, outcome.tick = .error fault ∧ outcome'.tick = .error fault) ∨
        ∃ tick tick', outcome.tick = .ok tick ∧ outcome'.tick = .ok tick' ∧
          SamePlace registry tolerance script.statements script'.statements world tick tick'
            outcome.world ∧
          tick.ending.SameBesideCase tick'.ending) := by
  intro outcome outcome'
  have halike : List.Forall₂ (fun statement statement' : Statement =>
      Leeway.ofTrace.Runs (Option.Rel Ending.SameBesideCase)
        (statement.run registry tolerance) (statement'.run registry tolerance))
      script.statements script'.statements :=
    h.imp fun _ _ hsame => hsame.runs_run hworld hregistry
  have hruns := Leeway.runs_runStatements halike (.refl _)
  obtain ⟨hleft, htick⟩ : outcome.world = outcome'.world ∧
      Leeway.ofTrace.Results (Leeway.ofTrace.Ticks Ending.SameBesideCase) outcome.tick
        outcome'.tick := Leeway.ticks_of_runs world h.length_eq hruns
  refine ⟨hleft, ?_⟩
  rcases htick.exists_of_results with
    ⟨fault, fault', hfault, hfault', hsame⟩ | ⟨tick, tick', htick, htick', hticks⟩
  · obtain rfl := hsame.eq fun _ _ hname => hname
    exact Or.inl ⟨fault, hfault, hfault'⟩
  · obtain ⟨_, -, hrun, -⟩ := exists_of_tick_eq_ok htick
    obtain ⟨_, -, hrun', -⟩ := exists_of_tick_eq_ok htick'
    rw [← hleft] at hrun'
    have hplace := samePlace_of_runs halike (fun _ _ hending => hending.decision) hrun hrun'
    exact Or.inr ⟨tick, tick', htick, htick', hplace, hticks.ending⟩

end Ticks

end Autopilot
