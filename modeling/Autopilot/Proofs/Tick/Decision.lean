import Autopilot.Command.Recipe
import Autopilot.Proofs.Tick.Statement
import Autopilot.Proofs.Tick.Trace
import Autopilot.World.Rig
import Mathlib.Logic.ExistsUnique

/-!
# How a tick is decided

A statement that is tried is passed or decides the tick.  It is passed if its condition
does not hold, or if it has none and its command does not act.  It decides the tick in
one of four ways: its command acts, a name is unknown to the world, its command has no
handler, or its condition holds but its command does not act.

A tick is decided by the first statement that is not passed, in one of these ways, or
all statements are passed.
-/

namespace Autopilot

variable {σ : Type}

/-- The four ways in which a statement decides a tick. -/
inductive Decision where
  /-- The command acts. -/
  | acts
  /-- The world does not know a name. -/
  | fails
  /-- The command has no handler. -/
  | lacksHandler
  /-- The condition holds, but the command does not act. -/
  | idles
deriving DecidableEq, Repr

/-- The way in which a tick that ended so was decided, if it was decided at all. -/
def Ending.decision? : Ending → Option Decision
  | acted _ => some .acts
  | failed _ => some .fails
  | unhandled _ _ => some .lacksHandler
  | idle _ => some .idles
  | exhausted => none

namespace Statement

section Semantics

variable [World σ] (registry : Registry σ) (tolerance : Tolerance) (statement : Statement)

/-- A statement is passed: its condition does not hold, or it has no condition and its
command does not act. -/
inductive IsPassed : σ → σ → Prop
  | unmet {world left : σ} {condition : Condition}
      (htrigger : statement.trigger = .condition condition)
      (hvalue : (condition.evaluate tolerance).Leaves world (.ok false) left) :
      IsPassed world left
  | declined {world left : σ} {handler : Handler σ} {outcome : Outcome}
      (hkind : statement.kind ≠ .conditional)
      (hhandler : registry.lookup statement.command.name = some handler)
      (hcall : handler statement.command world = (.ok outcome, left))
      (hperformed : outcome.performed = false) :
      IsPassed world left

/-- A statement that is tried in a world decides a tick, which shows how. -/
inductive Decides (world : σ) (tick : Tick) (left : σ) : Decision → Prop
  | acts {reached : σ} {handler : Handler σ} {outcome : Outcome}
      (hreached : statement.Reaches tolerance world reached)
      (hhandler : registry.lookup statement.command.name = some handler)
      (hcall : handler statement.command reached = (.ok outcome, left))
      (hperformed : outcome.performed = true)
      (haction : tick.action? = some
        ⟨statement.command, statement.line, statement.kind, outcome.messages⟩)
      (hfailure : tick.failure? = none)
      (hdiagnostics : tick.diagnostics = []) :
      Decides world tick left .acts
  | fails {kind : NameKind} {name : String} {position : Position}
      (hmisses : statement.Misses registry tolerance kind name world left)
      (hposition : Position.lineStart statement.line = .ok position)
      (hfailure : tick.failure? = some
        ⟨kind, name, statement.line, unknownNameRemark kind name position⟩)
      (hdiagnostics : tick.diagnostics = [unknownNameRemark kind name position])
      (haction : tick.action? = none) :
      Decides world tick left .fails
  | lacksHandler {position : Position}
      (hreached : statement.Reaches tolerance world left)
      (hhandler : registry.lookup statement.command.name = none)
      (hposition : Position.lineStart statement.line = .ok position)
      (hdiagnostics : tick.diagnostics = [statement.unknownCommandRemark position])
      (haction : tick.action? = none)
      (hfailure : tick.failure? = none) :
      Decides world tick left .lacksHandler
  | idles {reached : σ} {handler : Handler σ} {outcome : Outcome}
      (hkind : statement.kind = .conditional)
      (hreached : statement.Reaches tolerance world reached)
      (hhandler : registry.lookup statement.command.name = some handler)
      (hcall : handler statement.command reached = (.ok outcome, left))
      (hperformed : outcome.performed = false)
      (haction : tick.action? = none)
      (hfailure : tick.failure? = none)
      (hdiagnostics : tick.diagnostics = []) :
      Decides world tick left .idles

end Semantics

variable [World σ] {registry : Registry σ} {tolerance : Tolerance} {statement : Statement}
  {world left : σ}

/-- A statement is passed exactly if running it gives no end of the tick. -/
theorem isPassed_iff :
    statement.IsPassed registry tolerance world left ↔
      (statement.run registry tolerance).Leaves world (.ok none) left := by
  constructor
  · rintro (⟨htrigger, hvalue⟩ | ⟨hkind, hhandler, hcall, hperformed⟩)
    · apply leaves_run_ok_iff.mpr
      exact Or.inl (leaves_attempt_iff.mpr (Or.inr (Or.inl ⟨_, htrigger, hvalue, rfl⟩)))
    · have hcarried := leaves_carryOut_ok_iff.mpr
        (Or.inr ⟨_, _, hhandler, hcall, endingOf_eq_none_iff.mpr hperformed⟩)
      have hreached : statement.Reaches tolerance world world := .unconditional hkind
      have hrun := hreached.leaves_run hcarried
      rw [settled_of_kind hkind] at hrun
      exact hrun
  · rw [leaves_run_ok_iff, leaves_attempt_iff]
    rintro ((⟨reached, carried, hreached, hcarried, hresult⟩ |
      ⟨condition, htrigger, hvalue, -⟩ | ⟨_, _, fault, _, hresult⟩) | ⟨_, _, _, _, _, hending⟩)
    · obtain ⟨ending?, rfl, hsettled⟩ := map_eq_ok_iff.mp hresult
      cases ending? with
      | some ending =>
          rw [settled_some] at hsettled
          cases hsettled
      | none =>
          have hkind : statement.kind ≠ .conditional := by
            intro hkind
            rw [settled_none, if_pos hkind] at hsettled
            cases hsettled
          obtain rfl := (reaches_iff_of_kind hkind).mp hreached
          rcases leaves_carryOut_ok_iff.mp hcarried with
            ⟨_, _, _, _, hending⟩ | ⟨handler, outcome, hhandler, hcall, hending⟩
          · cases hending
          · exact .declined hkind hhandler hcall (endingOf_eq_none_iff.mp hending)
    · exact .unmet htrigger hvalue
    · cases hresult
    · cases hending

/-- A statement that decides a tick ends it when it is run. -/
theorem Decides.exists_leaves_run {tick : Tick} {decision : Decision}
    (h : statement.Decides registry tolerance world tick left decision) :
    ∃ ending, (statement.run registry tolerance).Leaves world (.ok (some ending)) left ∧
      ending.decision? = some decision := by
  cases h with
  | acts hreached hhandler hcall hperformed =>
      have hcarried := leaves_carryOut_ok_iff.mpr
        (Or.inr ⟨_, _, hhandler, hcall, endingOf_of_performed hperformed⟩)
      have hrun := hreached.leaves_run hcarried
      rw [settled_some] at hrun
      exact ⟨_, hrun, rfl⟩
  | fails hmisses hposition =>
      exact ⟨_, leaves_run_ok_iff.mpr (Or.inr ⟨_, _, _, hmisses, hposition, rfl⟩), rfl⟩
  | lacksHandler hreached hhandler hposition =>
      have hcarried : (statement.carryOut registry).Leaves left (.ok (some _)) left :=
        leaves_carryOut_ok_iff.mpr (Or.inl ⟨_, hhandler, hposition, rfl, rfl⟩)
      have hrun := hreached.leaves_run hcarried
      rw [settled_some] at hrun
      exact ⟨_, hrun, rfl⟩
  | idles hkind hreached hhandler hcall hperformed =>
      have hcarried := leaves_carryOut_ok_iff.mpr
        (Or.inr ⟨_, _, hhandler, hcall, endingOf_eq_none_iff.mpr hperformed⟩)
      have hrun := hreached.leaves_run hcarried
      rw [settled_none, if_pos hkind] at hrun
      exact ⟨_, hrun, rfl⟩

/-- A statement that ends a tick when it is run decides it. -/
theorem exists_decides {tick : Tick}
    (h : (statement.run registry tolerance).Leaves world (.ok (some tick.ending)) left) :
    ∃ decision, statement.Decides registry tolerance world tick left decision := by
  obtain ⟨trace, ending⟩ := tick
  rcases leaves_run_ok_iff.mp h with
    hattempt | ⟨kind, name, position, hmisses, hposition, hending⟩
  · rcases leaves_attempt_iff.mp hattempt with
      ⟨reached, carried, hreached, hcarried, hresult⟩ | ⟨_, _, _, hresult⟩ |
      ⟨_, _, _, _, hresult⟩
    · obtain ⟨ending?, rfl, hsettled⟩ := map_eq_ok_iff.mp hresult
      rcases leaves_carryOut_ok_iff.mp hcarried with
        ⟨position, hhandler, hposition, rfl, rfl⟩ | ⟨handler, outcome, hhandler, hcall, rfl⟩
      · rw [settled_some] at hsettled
        cases hsettled
        exact ⟨_, .lacksHandler hreached hhandler hposition rfl rfl rfl⟩
      · by_cases hperformed : outcome.performed = true
        · rw [endingOf_of_performed hperformed, settled_some] at hsettled
          cases hsettled
          exact ⟨_, .acts hreached hhandler hcall hperformed rfl rfl rfl⟩
        · have hdeclined := Bool.eq_false_iff.mpr hperformed
          rw [endingOf_eq_none_iff.mpr hdeclined, settled_none] at hsettled
          split at hsettled
          · rename_i hkind
            cases hsettled
            exact ⟨_, .idles hkind hreached hhandler hcall hdeclined rfl rfl rfl⟩
          · cases hsettled
    · cases hresult
    · cases hresult
  · cases hending
    exact ⟨_, .fails hmisses hposition rfl rfl rfl⟩

/-- What ends a tick decides it: no statement runs out of statements. -/
theorem exists_decision_of_leaves_run {ending : Ending}
    (h : (statement.run registry tolerance).Leaves world (.ok (some ending)) left) :
    ∃ decision, ending.decision? = some decision := by
  obtain ⟨decision, hdecides⟩ : ∃ decision,
      statement.Decides registry tolerance world ⟨[], ending⟩ left decision :=
    exists_decides h
  obtain ⟨ending', hrun, hdecision⟩ := hdecides.exists_leaves_run
  obtain ⟨hsame, -⟩ := h.unique hrun
  obtain rfl := Option.some.inj (Except.ok.inj hsame)
  exact ⟨decision, hdecision⟩

/-- A statement that is passed decides nothing. -/
theorem IsPassed.not_decides {tick : Tick} {decision : Decision} {left' : σ}
    (h : statement.IsPassed registry tolerance world left) :
    ¬ statement.Decides registry tolerance world tick left' decision := by
  intro hdecides
  obtain ⟨ending, hrun, -⟩ := hdecides.exists_leaves_run
  obtain ⟨hsame, -⟩ := (isPassed_iff.mp h).unique hrun
  cases hsame

/-- A statement decides a tick in one way. -/
theorem Decides.unique {tick tick' : Tick} {decision decision' : Decision} {left' : σ}
    (h : statement.Decides registry tolerance world tick left decision)
    (h' : statement.Decides registry tolerance world tick' left' decision') :
    decision = decision' := by
  obtain ⟨ending, hrun, hdecision⟩ := h.exists_leaves_run
  obtain ⟨ending', hrun', hdecision'⟩ := h'.exists_leaves_run
  obtain ⟨hsame, -⟩ := hrun.unique hrun'
  obtain rfl := Option.some.inj (Except.ok.inj hsame)
  exact Option.some.inj (hdecision.symm.trans hdecision')

end Statement

/-! ## Statements in order -/

section Statements

variable [World σ] (registry : Registry σ) (tolerance : Tolerance)

/-- Statements are passed one after the other. -/
inductive PassesAll : List Statement → σ → σ → Prop
  | nil {world : σ} : PassesAll [] world world
  | cons {statement : Statement} {rest : List Statement} {world middle left : σ}
      (hfirst : statement.IsPassed registry tolerance world middle)
      (hrest : PassesAll rest middle left) : PassesAll (statement :: rest) world left

/-- The statement with an index decides a tick that starts in a world: those before it
are passed. -/
def DecidesAt (statements : List Statement) (world : σ) (tick : Tick) (left : σ)
    (place : Nat × Decision) : Prop :=
  ∃ statement reached, statements[place.1]? = some statement ∧
    PassesAll registry tolerance (statements.take place.1) world reached ∧
    statement.Decides registry tolerance reached tick left place.2

end Statements

section Statements

variable [World σ] {registry : Registry σ} {tolerance : Tolerance}
  {statement : Statement} {statements rest : List Statement} {world left : σ}

theorem decidesAt_zero_iff {tick : Tick} {decision : Decision} :
    DecidesAt registry tolerance (statement :: rest) world tick left (0, decision) ↔
      statement.Decides registry tolerance world tick left decision := by
  constructor
  · rintro ⟨found, reached, hfound, hpasses, hdecides⟩
    cases hpasses
    obtain rfl : statement = found := Option.some.inj hfound
    exact hdecides
  · intro hdecides
    exact ⟨statement, world, rfl, .nil, hdecides⟩

theorem decidesAt_succ_iff {tick : Tick} {k : Nat} {decision : Decision} :
    DecidesAt registry tolerance (statement :: rest) world tick left (k + 1, decision) ↔
      ∃ middle, statement.IsPassed registry tolerance world middle ∧
        DecidesAt registry tolerance rest middle tick left (k, decision) := by
  constructor
  · rintro ⟨found, reached, hfound, hpasses, hdecides⟩
    cases hpasses with
    | cons hfirst hrest => exact ⟨_, hfirst, found, reached, hfound, hrest, hdecides⟩
  · rintro ⟨middle, hfirst, found, reached, hfound, hrest, hdecides⟩
    exact ⟨found, reached, hfound, .cons hfirst hrest, hdecides⟩

/-- Only one statement decides, and in one way. -/
theorem DecidesAt.unique {tick tick' : Tick} {left' : σ} {place place' : Nat × Decision}
    (h : DecidesAt registry tolerance statements world tick left place)
    (h' : DecidesAt registry tolerance statements world tick' left' place') :
    place = place' := by
  obtain ⟨k, decision⟩ := place
  obtain ⟨k', decision'⟩ := place'
  induction statements generalizing world k k' with
  | nil =>
      obtain ⟨_, _, hfound, -⟩ := h
      cases hfound
  | cons statement rest ih =>
      cases k with
      | zero =>
          have hdecides := decidesAt_zero_iff.mp h
          cases k' with
          | zero => rw [hdecides.unique (decidesAt_zero_iff.mp h')]
          | succ k' =>
              obtain ⟨middle, hfirst, -⟩ := decidesAt_succ_iff.mp h'
              exact absurd hdecides hfirst.not_decides
      | succ k =>
          obtain ⟨middle, hfirst, hrest⟩ := decidesAt_succ_iff.mp h
          cases k' with
          | zero => exact absurd (decidesAt_zero_iff.mp h') hfirst.not_decides
          | succ k' =>
              obtain ⟨middle', hfirst', hrest'⟩ := decidesAt_succ_iff.mp h'
              obtain ⟨-, rfl⟩ :=
                (Statement.isPassed_iff.mp hfirst).unique (Statement.isPassed_iff.mp hfirst')
              obtain ⟨rfl, rfl⟩ := Prod.mk.inj (ih k hrest k' hrest')
              rfl

/-- Where all statements are passed, none decides. -/
theorem PassesAll.not_decidesAt {tick : Tick} {left' : σ} {place : Nat × Decision}
    (h : PassesAll registry tolerance statements world left) :
    ¬ DecidesAt registry tolerance statements world tick left' place := by
  obtain ⟨k, decision⟩ := place
  induction h generalizing k with
  | nil =>
      rintro ⟨_, _, hfound, -⟩
      cases hfound
  | cons hfirst hrest ih =>
      intro hdecides
      cases k with
      | zero => exact hfirst.not_decides (decidesAt_zero_iff.mp hdecides)
      | succ k =>
          obtain ⟨middle, hfirst', hdecides⟩ := decidesAt_succ_iff.mp hdecides
          obtain ⟨-, rfl⟩ :=
            (Statement.isPassed_iff.mp hfirst).unique (Statement.isPassed_iff.mp hfirst')
          exact ih k hdecides

/-- Running statements runs the first one, and the others only if it is passed. -/
theorem leaves_runStatements_cons_iff {result : Except Fault Ending} :
    (Script.runStatements registry tolerance (statement :: rest)).Leaves world result left ↔
      (∃ middle, statement.IsPassed registry tolerance world middle ∧
        (Script.runStatements registry tolerance rest).Leaves middle result left) ∨
      (∃ ending, (statement.run registry tolerance).Leaves world (.ok (some ending)) left ∧
        .ok ending = result) ∨
      ∃ fault, (statement.run registry tolerance).Leaves world (.error fault) left ∧
        .error fault = result := by
  rw [Script.runStatements, Run.leaves_bind_iff]
  simp only [Statement.isPassed_iff]
  constructor
  · rintro (⟨ending?, middle, hfirst, hrest⟩ | hfault)
    · cases ending? with
      | none => exact Or.inl ⟨middle, hfirst, hrest⟩
      | some ending =>
          obtain ⟨hresult, rfl⟩ := hrest
          exact Or.inr (Or.inl ⟨ending, hfirst, hresult⟩)
    · exact Or.inr (Or.inr hfault)
  · rintro (⟨middle, hfirst, hrest⟩ | ⟨ending, hfirst, hresult⟩ | hfault)
    · exact Or.inl ⟨none, middle, hfirst, hrest⟩
    · exact Or.inl ⟨some ending, left, hfirst, hresult, rfl⟩
    · exact Or.inr hfault

/-- Statements of which the first ones are passed and the next one ends the tick end it
in this way. -/
theorem Script.leaves_runStatements_of_passesAll {k : Nat} {ending : Ending} {reached : σ}
    (hfound : statements[k]? = some statement)
    (hpasses : PassesAll registry tolerance (statements.take k) world reached)
    (hrun : (statement.run registry tolerance).Leaves reached (.ok (some ending)) left) :
    (runStatements registry tolerance statements).Leaves world (.ok ending) left := by
  induction statements generalizing k world with
  | nil => cases hfound
  | cons first rest ih =>
      rw [leaves_runStatements_cons_iff]
      cases k with
      | zero =>
          cases hpasses
          obtain rfl := Option.some.inj hfound
          exact Or.inr (Or.inl ⟨ending, hrun, rfl⟩)
      | succ k =>
          cases hpasses with
          | cons hfirst hrest => exact Or.inl ⟨_, hfirst, ih hfound hrest⟩

/-- Statements that run to their end are passed, or one of them decides. -/
theorem passesAll_or_exists_decidesAt {tick : Tick}
    (h : (Script.runStatements registry tolerance statements).Leaves world
      (.ok tick.ending) left) :
    PassesAll registry tolerance statements world left ∧ tick.ending = .exhausted ∨
      ∃ place, DecidesAt registry tolerance statements world tick left place := by
  induction statements generalizing world with
  | nil =>
      obtain ⟨hresult, rfl⟩ := h
      exact Or.inl ⟨.nil, (Except.ok.inj hresult).symm⟩
  | cons statement rest ih =>
      rcases leaves_runStatements_cons_iff.mp h with
        ⟨middle, hfirst, hrest⟩ | ⟨ending, hrun, hresult⟩ | ⟨fault, -, hresult⟩
      · rcases ih hrest with ⟨hpasses, hending⟩ | ⟨⟨k, decision⟩, hdecides⟩
        · exact Or.inl ⟨.cons hfirst hpasses, hending⟩
        · exact Or.inr ⟨_, decidesAt_succ_iff.mpr ⟨middle, hfirst, hdecides⟩⟩
      · rw [Except.ok.inj hresult] at hrun
        obtain ⟨decision, hdecides⟩ := Statement.exists_decides hrun
        exact Or.inr ⟨_, decidesAt_zero_iff.mpr hdecides⟩
      · cases hresult

end Statements

/-- A tick that gives a result passes all statements and does nothing, or exactly one
statement decides it, in exactly one way. -/
theorem Script.tick_existsUnique_decision [World σ] {registry : Registry σ}
    {tolerance : Tolerance} {script : Script} {world : σ} {tick : Tick}
    (h : (script.tick registry tolerance world).tick = .ok tick) :
    let left := (script.tick registry tolerance world).world
    ((¬ ∃ place, DecidesAt registry tolerance script.statements world tick left place) ∧
      PassesAll registry tolerance script.statements world left ∧
      tick.action? = none ∧ tick.failure? = none ∧ tick.diagnostics = [] ∧
      tick.trace.getLast? = some "--- No command executed (end of script) ---") ∨
    ∃! place, DecidesAt registry tolerance script.statements world tick left place := by
  obtain ⟨description, -, hrun, htrace⟩ := exists_of_tick_eq_ok h
  rcases passesAll_or_exists_decidesAt hrun with ⟨hpasses, hending⟩ | ⟨place, hdecides⟩
  · refine Or.inl ⟨?_, hpasses, ?_, ?_, ?_, ?_⟩
    · rintro ⟨place, hdecides⟩
      exact hpasses.not_decidesAt hdecides
    · rw [Tick.action?, hending]
      rfl
    · rw [Tick.failure?, hending]
      rfl
    · rw [Tick.diagnostics, hending]
      rfl
    · rw [htrace, List.getLast?_concat, hending]
      rfl
  · refine Or.inr ⟨place, hdecides, ?_⟩
    intro place' hdecides'
    exact hdecides'.unique hdecides

/-- A landing behind a condition that does not hold and a command that does not act. -/
theorem Script.tick_existsUnique_decision_landing :
    let world : Rig := ⟨"rig", [], [("storm", false)], ⟨[]⟩, .int 7, []⟩
    let registry : Registry Rig := .ofEntries
      [("hover", Recipe.handle ⟨false, none, none, true, []⟩),
        ("land", Recipe.handle ⟨true, none, none, false, ["Down."]⟩)]
    let script : Script :=
      ⟨[⟨.condition (.query "storm"), ⟨"land", []⟩, 1⟩, ⟨.fallback, ⟨"hover", []⟩, 2⟩,
        ⟨.always, ⟨"Land", [.number "3"]⟩, 3⟩]⟩
    let outcome := script.tick registry .thousandth world
    ∃ tick, outcome.tick = .ok tick ∧
      tick.action? = some ⟨⟨"Land", [.number "3"]⟩, 3, .command, ["Down."]⟩ ∧
      ∃! place, DecidesAt registry .thousandth script.statements world tick
        outcome.world place := by
  intro world registry script outcome
  have htick : outcome.tick =
      .ok ⟨_, .acted ⟨⟨"Land", [.number "3"]⟩, 3, .command, ["Down."]⟩⟩ := rfl
  rcases Script.tick_existsUnique_decision htick with ⟨-, -, haction, -⟩ | hunique
  · cases haction
  · exact ⟨_, htick, rfl, hunique⟩

end Autopilot
