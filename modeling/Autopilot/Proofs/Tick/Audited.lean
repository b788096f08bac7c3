import Autopilot.Proofs.Tick.Statement
import Autopilot.Proofs.Tick.Trace

/-!
# Audited worlds

An audited world answers as the world in it does, and the handlers of an audited registry
do what the handlers in it do; each of them puts down that it was called, and with which
command.  A tick does not tell the two apart, so what is put down are the calls of
handlers in the tick.
-/

namespace Autopilot

/-- A call of a handler with a command. -/
structure HandlerCall (σ : Type) where
  handler : Handler σ
  command : Command

/-- A world and the calls of handlers in it, in order. -/
structure Audited (σ : Type) where
  world : σ
  calls : List (HandlerCall σ)

variable {σ α β : Type}

/-- An access to the world in an audited one, in which some calls are made. -/
def Audited.access (calls : List (HandlerCall σ)) (access : Access σ α) :
    Access (Audited σ) α := fun audited =>
  let (result, world) := access audited.world
  (result, ⟨world, audited.calls ++ calls⟩)

instance [World σ] : World (Audited σ) where
  flag name := Audited.access [] (World.flag name)
  number name := Audited.access [] (World.number name)
  resourceNearby audited := World.resourceNearby audited.world
  unload := Audited.access [] World.unload
  describe audited := World.describe audited.world

/-- The handler that puts down its calls. -/
def Handler.audited (handler : Handler σ) : Handler (Audited σ) := fun command =>
  Audited.access [⟨handler, command⟩] (handler command)

/-- The registry whose handlers put down their calls. -/
def Registry.audited (registry : Registry σ) : Registry (Audited σ) :=
  ⟨registry.entries.map fun entry => (entry.1, entry.2.audited)⟩

theorem lookup_map_snd {γ : Type} (change : α → β) (table : List (γ × α)) [BEq γ]
    (key : γ) : (table.map fun entry => (entry.1, change entry.2)).lookup key =
      (table.lookup key).map change := by
  induction table with
  | nil => rfl
  | cons entry rest ih =>
      rw [List.map_cons, List.lookup_cons, List.lookup_cons, ih]
      cases key == entry.1 with
      | true => rfl
      | false => rfl

theorem Registry.lookup_audited (registry : Registry σ) (name : String) :
    registry.audited.lookup name = (registry.lookup name).map Handler.audited :=
  lookup_map_snd ..

/-- A trail that leaves an audited world. -/
def Trail.audited (trail : Trail σ α) (calls : List (HandlerCall σ)) :
    Trail (Audited σ) α :=
  ⟨trail.result, ⟨trail.world, calls⟩, trail.trace, trail.log⟩

namespace Run

/-- In an audited world a run does what another run does in the world in it, and calls
are only added to those put down. -/
def Audits (run : Run (Audited σ) α) (plain : Run σ α) : Prop :=
  ∀ audited, ∃ more,
    run audited = (plain audited.world).audited (audited.calls ++ more)

theorem audits_of_no_call {run : Run (Audited σ) α} {plain : Run σ α}
    (h : ∀ audited, run audited = (plain audited.world).audited audited.calls) :
    run.Audits plain := by
  intro audited
  refine ⟨[], ?_⟩
  rw [List.append_nil]
  exact h audited

theorem audits_pure (value : α) : (pure value : Run (Audited σ) α).Audits (pure value) :=
  audits_of_no_call fun _ => rfl

theorem audits_write (line : String) :
    (write line : Run (Audited σ) Unit).Audits (write line) :=
  audits_of_no_call fun _ => rfl

theorem audits_writeAll (lines : List String) :
    (writeAll lines : Run (Audited σ) Unit).Audits (writeAll lines) :=
  audits_of_no_call fun _ => rfl

theorem audits_record (level : LogLevel) (message : String) :
    (record level message : Run (Audited σ) Unit).Audits (record level message) :=
  audits_of_no_call fun _ => rfl

theorem audits_lift (result : Except Fault α) :
    (lift result : Run (Audited σ) α).Audits (lift result) :=
  audits_of_no_call fun _ => rfl

theorem audits_access (calls : List (HandlerCall σ)) (access : Access σ α) :
    (Run.access (Audited.access calls access)).Audits (Run.access access) := by
  intro audited
  exact ⟨calls, rfl⟩

theorem Audits.bind {first : Run (Audited σ) α} {plainFirst : Run σ α}
    {second : α → Run (Audited σ) β} {plainSecond : α → Run σ β}
    (hfirst : first.Audits plainFirst)
    (hsecond : ∀ value, (second value).Audits (plainSecond value)) :
    (first >>= second).Audits (plainFirst >>= plainSecond) := by
  intro audited
  obtain ⟨more, hrun⟩ := hfirst audited
  have hresult := congrArg Trail.result hrun
  cases hplain : (plainFirst audited.world).result with
  | error fault =>
      refine ⟨more, ?_⟩
      rw [bind_of_error (hresult.trans hplain), bind_of_error hplain, hrun]
      rfl
  | ok value =>
      obtain ⟨further, hrest⟩ :=
        hsecond value ⟨(plainFirst audited.world).world, audited.calls ++ more⟩
      refine ⟨more ++ further, ?_⟩
      rw [bind_of_ok (hresult.trans hplain), bind_of_ok hplain, hrun, Trail.audited, hrest,
        List.append_assoc]
      rfl

theorem Audits.rescue {run : Run (Audited σ) α} {plain : Run σ α}
    {handle : NameKind → String → Run (Audited σ) α}
    {plainHandle : NameKind → String → Run σ α} (hrun : run.Audits plain)
    (hhandle : ∀ kind name, (handle kind name).Audits (plainHandle kind name)) :
    (run.rescue handle).Audits (plain.rescue plainHandle) := by
  intro audited
  obtain ⟨more, hmore⟩ := hrun audited
  have hresult := congrArg Trail.result hmore
  by_cases h : ∃ kind name, (plain audited.world).result = .error (.unknownName kind name)
  · obtain ⟨kind, name, hname⟩ := h
    obtain ⟨further, hrest⟩ :=
      hhandle kind name ⟨(plain audited.world).world, audited.calls ++ more⟩
    have haudited : (run.rescue handle) audited = _ :=
      Trail.rescue_of_unknownName (hresult.trans hname) handle
    have hplain : (plain.rescue plainHandle) audited.world = _ :=
      Trail.rescue_of_unknownName hname plainHandle
    refine ⟨more ++ further, ?_⟩
    rw [haudited, hplain, hmore, Trail.audited, hrest, List.append_assoc]
    rfl
  · have hplain : Nameless (plain audited.world).result := by
      intro kind name hname
      exact h ⟨kind, name, hname⟩
    have hnameless : Nameless (run audited).result := by
      rw [hmore]
      exact hplain
    have haudited : (run.rescue handle) audited = run audited :=
      Trail.rescue_of_nameless hnameless handle
    have hplain : (plain.rescue plainHandle) audited.world = plain audited.world :=
      Trail.rescue_of_nameless hplain plainHandle
    refine ⟨more, ?_⟩
    rw [haudited, hplain, hmore]

end Run

/-! ## A tick in an audited world -/

variable [World σ]

theorem Operand.audits_evaluate (operand : Operand) :
    (operand.evaluate : Run (Audited σ) Number).Audits operand.evaluate := by
  cases operand with
  | name name => exact Run.audits_access [] _
  | number raw => exact Run.audits_lift _

theorem Condition.audits_evaluate (tolerance : Tolerance) (condition : Condition) :
    (condition.evaluate tolerance : Run (Audited σ) Bool).Audits
      (condition.evaluate tolerance) := by
  induction condition with
  | comparison left comparator right =>
      apply (Run.audits_access [] (World.number left)).bind
      intro leftValue
      apply right.audits_evaluate.bind
      intro rightValue
      apply (Run.audits_lift _).bind
      intro result
      apply (Run.audits_lift _).bind
      intro line
      apply (Run.audits_write line).bind
      intro _
      exact Run.audits_pure result
  | query name =>
      apply (Run.audits_access [] (World.flag name)).bind
      intro result
      apply (Run.audits_write _).bind
      intro _
      exact Run.audits_pure result
  | logical left connective right ihLeft ihRight =>
      apply ihLeft.bind
      intro leftValue
      by_cases hdecided : connective.isDecidedBy leftValue = true
      · rw [if_pos hdecided, if_pos hdecided]
        apply (Run.audits_write _).bind
        intro _
        exact Run.audits_pure leftValue
      · rw [if_neg hdecided, if_neg hdecided]
        apply ihRight.bind
        intro rightValue
        apply (Run.audits_write _).bind
        intro _
        exact Run.audits_pure rightValue

namespace Statement

variable (registry : Registry σ) (tolerance : Tolerance) (statement : Statement)

omit [World σ] in
theorem audits_unhandled :
    (statement.unhandled : Run (Audited σ) Ending).Audits statement.unhandled := by
  apply (Run.audits_write _).bind
  intro _
  apply (Run.audits_record _ _).bind
  intro _
  apply (Run.audits_lift _).bind
  intro position
  exact Run.audits_pure _

omit [World σ] in
theorem audits_carryOut :
    (statement.carryOut registry.audited).Audits (statement.carryOut registry) := by
  apply (Run.audits_write _).bind
  intro _
  rw [registry.lookup_audited]
  cases registry.lookup statement.command.name with
  | none =>
      apply statement.audits_unhandled.bind
      intro ending
      exact Run.audits_pure _
  | some handler =>
      apply (Run.audits_access [⟨handler, statement.command⟩] _).bind
      intro outcome
      apply (Run.audits_writeAll _).bind
      intro _
      by_cases hperformed : outcome.performed = true
      · rw [if_pos hperformed, if_pos hperformed]
        exact Run.audits_pure _
      · rw [if_neg hperformed, if_neg hperformed]
        apply (Run.audits_write _).bind
        intro _
        exact Run.audits_pure _

theorem audits_attempt : (statement.attempt registry.audited tolerance).Audits
    (statement.attempt registry tolerance) := by
  rw [attempt, attempt]
  cases statement.trigger with
  | condition condition =>
      apply (Run.audits_write _).bind
      intro _
      apply (condition.audits_evaluate tolerance).bind
      intro value
      cases value with
      | true =>
          apply (Run.audits_write _).bind
          intro _
          apply (statement.audits_carryOut registry).bind
          intro ending
          exact Run.audits_pure _
      | false =>
          apply (Run.audits_write _).bind
          intro _
          exact Run.audits_pure _
  | fallback =>
      apply (Run.audits_write _).bind
      intro _
      exact statement.audits_carryOut registry
  | always =>
      apply (Run.audits_write _).bind
      intro _
      exact statement.audits_carryOut registry

omit [World σ] in
theorem audits_fail (kind : NameKind) (name : String) :
    (statement.fail kind name : Run (Audited σ) (Option Ending)).Audits
      (statement.fail kind name) := by
  apply (Run.audits_lift _).bind
  intro position
  exact Run.audits_pure _

theorem audits_run : (statement.run registry.audited tolerance).Audits
    (statement.run registry tolerance) := by
  apply (statement.audits_attempt registry tolerance).rescue
  intro kind name
  exact statement.audits_fail kind name

end Statement

namespace Script

theorem audits_runStatements (registry : Registry σ) (tolerance : Tolerance)
    (statements : List Statement) :
    (runStatements registry.audited tolerance statements).Audits
      (runStatements registry tolerance statements) := by
  induction statements with
  | nil => exact Run.audits_pure _
  | cons statement rest ih =>
      apply (statement.audits_run registry tolerance).bind
      intro ending?
      cases ending? with
      | none => exact ih
      | some ending => exact Run.audits_pure ending

theorem audits_run (registry : Registry σ) (tolerance : Tolerance) (script : Script) :
    (script.run registry.audited tolerance).Audits (script.run registry tolerance) := by
  have hheader : (Run.access fun audited : Audited σ =>
        (script.header audited, audited)).Audits
      (Run.access fun world => (script.header world, world)) :=
    Run.audits_of_no_call fun _ => rfl
  apply hheader.bind
  intro line
  apply (Run.audits_write line).bind
  intro _
  apply (audits_runStatements registry tolerance script.statements).bind
  intro ending
  apply (Run.audits_write _).bind
  intro _
  apply (Run.audits_record _ _).bind
  intro _
  exact Run.audits_pure ending

/-- Auditing makes no difference but for the calls that are put down. -/
theorem tick_audited (registry : Registry σ) (tolerance : Tolerance) (script : Script)
    (world : σ) :
    let plain := script.tick registry tolerance world
    let audited := script.tick registry.audited tolerance ⟨world, []⟩
    audited.tick = plain.tick ∧ audited.world.world = plain.world ∧
      audited.log = plain.log := by
  intro plain audited
  obtain ⟨more, hrun⟩ := script.audits_run registry tolerance ⟨world, []⟩
  simp only [audited, plain, tick, hrun]
  exact ⟨rfl, rfl, rfl⟩

end Script

end Autopilot
