import Autopilot.Proofs.Tick.Trace
import Mathlib.Data.List.Forall2

/-!
# Runs that are alike

Two runs are alike if, from every world, they leave the same world, corresponding
results and corresponding traces.  A leeway says which lines of traces, and which
unknown names, are taken for the same.  The log is left out of account.

Runs that are put together alike from runs that are alike are themselves alike
(`Leeway.runs_bind`), and so are the ticks of two lists of statements that are alike one
by one (`Leeway.ticks_of_runs`).
-/

namespace Autopilot

/-- Which lines of traces and which unknown names are taken for the same. -/
structure Leeway where
  line : String → String → Prop
  name : String → String → Prop
  line_refl : ∀ text, line text text
  name_refl : ∀ text, name text text

namespace Leeway

/-- Only what is equal is taken for the same. -/
def strict : Leeway where
  line := Eq
  name := Eq
  line_refl := Eq.refl
  name_refl := Eq.refl

/-- Faults are alike if they are equal, names apart that are taken for the same. -/
inductive Faults (leeway : Leeway) : Fault → Fault → Prop
  | unknownName (kind : NameKind) {name name' : String} (hname : leeway.name name name') :
      Faults leeway (.unknownName kind name) (.unknownName kind name')
  | other {fault : Fault} (hfault : ∀ kind name, fault ≠ .unknownName kind name) :
      Faults leeway fault fault

/-- Results are alike if both are values that correspond, or both are faults. -/
inductive Results (leeway : Leeway) {α β : Type} (value : α → β → Prop) :
    Except Fault α → Except Fault β → Prop
  | ok {given : α} {given' : β} (hvalue : value given given') :
      Results leeway value (.ok given) (.ok given')
  | error {fault fault' : Fault} (hfault : leeway.Faults fault fault') :
      Results leeway value (.error fault) (.error fault')

variable {leeway : Leeway} {σ α α' β β' : Type}

theorem faults_refl (fault : Fault) : leeway.Faults fault fault := by
  by_cases h : ∃ kind name, fault = .unknownName kind name
  · obtain ⟨kind, name, rfl⟩ := h
    exact .unknownName kind (leeway.name_refl name)
  · apply Faults.other
    intro kind name hfault
    exact h ⟨kind, name, hfault⟩

/-- Where names are taken for the same only if they are, faults are alike only if they
are the same. -/
theorem Faults.eq {fault fault' : Fault} (h : leeway.Faults fault fault')
    (hname : ∀ name name', leeway.name name name' → name = name') : fault = fault' := by
  cases h with
  | unknownName kind hsame => rw [hname _ _ hsame]
  | other hfault => rfl

theorem Results.refl {value : α → α → Prop} (hvalue : ∀ given, value given given)
    (result : Except Fault α) : leeway.Results value result result := by
  cases result with
  | error fault => exact .error (faults_refl fault)
  | ok given => exact .ok (hvalue given)

theorem Results.map {value : α → α' → Prop} {value' : β → β' → Prop}
    {result : Except Fault α} {result' : Except Fault α'} {change : α → β}
    {change' : α' → β'} (h : leeway.Results value result result')
    (hchange : ∀ given given', value given given' →
      value' (change given) (change' given')) :
    leeway.Results value' (result.map change) (result'.map change') := by
  cases h with
  | ok hvalue => exact .ok (hchange _ _ hvalue)
  | error hfault => exact .error hfault

theorem Results.imp {value value' : α → β → Prop} {result : Except Fault α}
    {result' : Except Fault β} (h : leeway.Results value result result')
    (himp : ∀ given given', value given given' → value' given given') :
    leeway.Results value' result result' := by
  cases h with
  | ok hvalue => exact .ok (himp _ _ hvalue)
  | error hfault => exact .error hfault

/-- Results that are alike are both faults or both values. -/
theorem Results.exists_of_results {value : α → β → Prop} {result : Except Fault α}
    {result' : Except Fault β} (h : leeway.Results value result result') :
    (∃ fault fault', result = .error fault ∧ result' = .error fault' ∧
      leeway.Faults fault fault') ∨
    ∃ given given', result = .ok given ∧ result' = .ok given' ∧ value given given' := by
  cases h with
  | ok hvalue => exact Or.inr ⟨_, _, rfl, rfl, hvalue⟩
  | error hfault => exact Or.inl ⟨_, _, rfl, rfl, hfault⟩

/-! ## Trails -/

/-- Two trails are alike. -/
structure Trails (leeway : Leeway) (value : α → β → Prop) (trail : Trail σ α)
    (trail' : Trail σ β) : Prop where
  result : leeway.Results value trail.result trail'.result
  world : trail.world = trail'.world
  trace : List.Forall₂ leeway.line trail.trace trail'.trace

theorem forall₂_line_refl (lines : List String) : List.Forall₂ leeway.line lines lines := by
  rw [List.forall₂_same]
  intro line _
  exact leeway.line_refl line

theorem trails_after {value : α → β → Prop} {trail : Trail σ α} {trail' : Trail σ β}
    {trace trace' : List String} {log log' : List LogRecord}
    (h : leeway.Trails value trail trail')
    (htrace : List.Forall₂ leeway.line trace trace') :
    leeway.Trails value (trail.after trace log) (trail'.after trace' log') where
  result := h.result
  world := h.world
  trace := List.rel_append htrace h.trace

/-- What follows at an unknown name starts from the same world.  It may be alike with
another leeway, as no unknown name is left. -/
theorem trails_rescue {leeway' : Leeway} {value : α → β → Prop} {trail : Trail σ α}
    {trail' : Trail σ β} {handle : NameKind → String → σ → Trail σ α}
    {handle' : NameKind → String → σ → Trail σ β}
    (hline : ∀ text text', leeway.line text text' → leeway'.line text text')
    (h : leeway.Trails value trail trail')
    (hhandle : ∀ kind name name', leeway.name name name' → ∀ left,
      leeway'.Trails value (handle kind name left) (handle' kind name' left)) :
    leeway'.Trails value (trail.rescue handle) (trail'.rescue handle') := by
  obtain ⟨result, left, trace, log⟩ := trail
  obtain ⟨result', left', trace', log'⟩ := trail'
  obtain ⟨hresult, rfl, htrace⟩ := h
  replace htrace : List.Forall₂ leeway'.line trace trace' := htrace.imp hline
  cases hresult with
  | ok hvalue => exact ⟨.ok hvalue, rfl, htrace⟩
  | @error fault fault' hfault =>
      cases hfault with
      | unknownName kind hname => exact trails_after (hhandle kind _ _ hname left) htrace
      | other hother =>
          have hnameless : Nameless (.error fault : Except Fault α) := by
            intro kind name hname
            exact hother kind name (Except.error.inj hname)
          rw [Trail.rescue_of_nameless hnameless, Trail.rescue_of_nameless hnameless.error]
          exact ⟨.error (.other hother), rfl, htrace⟩

/-! ## Runs -/

/-- Two runs are alike: in every world they leave trails that are alike. -/
def Runs (leeway : Leeway) (value : α → β → Prop) (run : Run σ α) (run' : Run σ β) :
    Prop :=
  ∀ world, leeway.Trails value (run world) (run' world)

theorem runs_refl {value : α → α → Prop} (hvalue : ∀ given, value given given)
    (run : Run σ α) : leeway.Runs value run run := by
  intro world
  constructor
  · exact .refl hvalue _
  · rfl
  · exact forall₂_line_refl _

theorem runs_pure {value : α → β → Prop} {given : α} {given' : β}
    (h : value given given') :
    leeway.Runs value (pure given : Run σ α) (pure given' : Run σ β) := by
  intro world
  exact ⟨.ok h, rfl, .nil⟩

/-- The log is left out of account. -/
theorem runs_record (level level' : LogLevel) (message message' : String) :
    leeway.Runs Eq (Run.record level message : Run σ Unit)
      (Run.record level' message') := by
  intro world
  exact ⟨.ok rfl, rfl, .nil⟩

theorem runs_lift {value : α → β → Prop} {result : Except Fault α}
    {result' : Except Fault β} (h : leeway.Results value result result') :
    leeway.Runs value (Run.lift result : Run σ α) (Run.lift result') := by
  intro world
  exact ⟨h, rfl, .nil⟩

/-- Two accesses are alike: in every world they leave the same world and corresponding
results. -/
def Accesses (leeway : Leeway) (value : α → β → Prop) (access : Access σ α)
    (access' : Access σ β) : Prop :=
  ∀ world, ∃ result result' left, access world = (result, left) ∧
    access' world = (result', left) ∧ leeway.Results value result result'

theorem runs_access {value : α → β → Prop} {access : Access σ α} {access' : Access σ β}
    (h : leeway.Accesses value access access') :
    leeway.Runs value (Run.access access) (Run.access access') := by
  intro world
  obtain ⟨result, result', left, haccess, haccess', hresult⟩ := h world
  rw [Run.access, Run.access, haccess, haccess']
  exact ⟨hresult, rfl, .nil⟩

/-- What runs that are alike leave corresponds if both give a value. -/
theorem Runs.of_leaves_ok {value : α → β → Prop} {run : Run σ α} {run' : Run σ β}
    (h : leeway.Runs value run run') {world left left' : σ} {given : α} {given' : β}
    (hleaves : run.Leaves world (.ok given) left)
    (hleaves' : run'.Leaves world (.ok given') left') :
    value given given' ∧ left = left' := by
  obtain ⟨hresult, hworld, -⟩ := h world
  rw [hleaves.1, hleaves'.1] at hresult
  rw [hleaves.2, hleaves'.2] at hworld
  cases hresult with
  | ok hvalue => exact ⟨hvalue, hworld⟩

theorem runs_bind {value : α → α' → Prop} {value' : β → β' → Prop} {first : Run σ α}
    {first' : Run σ α'} {second : α → Run σ β} {second' : α' → Run σ β'}
    (hfirst : leeway.Runs value first first')
    (hsecond : ∀ given given', value given given' →
      leeway.Runs value' (second given) (second' given')) :
    leeway.Runs value' (first >>= second) (first' >>= second') := by
  intro world
  obtain ⟨hresult, hworld, htrace⟩ := hfirst world
  cases hgiven : (first world).result with
  | error fault =>
      rw [hgiven] at hresult
      cases hgiven' : (first' world).result with
      | ok given' =>
          rw [hgiven'] at hresult
          cases hresult
      | error fault' =>
          rw [hgiven'] at hresult
          rw [Run.bind_of_error hgiven, Run.bind_of_error hgiven']
          cases hresult with
          | error hfault => exact ⟨.error hfault, hworld, htrace⟩
  | ok given =>
      rw [hgiven] at hresult
      cases hgiven' : (first' world).result with
      | error fault' =>
          rw [hgiven'] at hresult
          cases hresult
      | ok given' =>
          rw [hgiven'] at hresult
          rw [Run.bind_of_ok hgiven, Run.bind_of_ok hgiven', ← hworld]
          cases hresult with
          | ok hvalue => exact trails_after (hsecond _ _ hvalue _) htrace

/-- A run after one that is the same on both sides. -/
theorem runs_bind_same {value : β → β' → Prop} {first : Run σ α} {second : α → Run σ β}
    {second' : α → Run σ β'} (h : ∀ given, leeway.Runs value (second given) (second' given)) :
    leeway.Runs value (first >>= second) (first >>= second') := by
  apply runs_bind (runs_refl Eq.refl first)
  rintro given _ rfl
  exact h given

/-- Runs that first write lines which are taken for the same. -/
theorem runs_write_bind {value : α → β → Prop} {line line' : String}
    {second : Unit → Run σ α} {second' : Unit → Run σ β} (hline : leeway.line line line')
    (hsecond : leeway.Runs value (second ()) (second' ())) :
    leeway.Runs value (Run.write line >>= second) (Run.write line' >>= second') := by
  intro world
  exact trails_after (hsecond world) (.cons hline .nil)

theorem runs_rescue {leeway' : Leeway} {value : α → β → Prop} {run : Run σ α}
    {run' : Run σ β} {handle : NameKind → String → Run σ α}
    {handle' : NameKind → String → Run σ β}
    (hline : ∀ text text', leeway.line text text' → leeway'.line text text')
    (hrun : leeway.Runs value run run')
    (hhandle : ∀ kind name name', leeway.name name name' →
      leeway'.Runs value (handle kind name) (handle' kind name')) :
    leeway'.Runs value (run.rescue handle) (run'.rescue handle') := by
  intro world
  apply trails_rescue hline (hrun world)
  intro kind name name' hname left
  exact hhandle kind name name' hname left

/-! ## Statements and ticks -/

variable [World σ] {registry registry' : Registry σ} {tolerance : Tolerance}
  {ending : Ending → Ending → Prop}

/-- Lists of statements are run alike if their statements are, one by one. -/
theorem runs_runStatements {statements statements' : List Statement}
    (h : List.Forall₂ (fun statement statement' =>
      leeway.Runs (Option.Rel ending) (statement.run registry tolerance)
        (statement'.run registry' tolerance)) statements statements')
    (hexhausted : ending .exhausted .exhausted) :
    leeway.Runs ending (Script.runStatements registry tolerance statements)
      (Script.runStatements registry' tolerance statements') := by
  induction h with
  | nil => exact runs_pure hexhausted
  | cons hrun hrest ih =>
      apply runs_bind hrun
      intro ending? ending?' hending
      cases hending with
      | none => exact ih
      | some hending => exact runs_pure hending

/-- Two ticks are alike: between the same first line and their last lines their traces
are, and they ended in corresponding ways. -/
structure Ticks (leeway : Leeway) (ending : Ending → Ending → Prop) (tick tick' : Tick) :
    Prop where
  ending : ending tick.ending tick'.ending
  trace : ∃ first body body', List.Forall₂ leeway.line body body' ∧
    tick.trace = first :: body ++ [tick.ending.closing] ∧
    tick'.trace = first :: body' ++ [tick'.ending.closing]

/-- The ticks of scripts of one length whose statements are run alike are alike. -/
theorem ticks_of_runs {script script' : Script} (world : σ)
    (hlength : script.length = script'.length)
    (h : leeway.Runs ending (Script.runStatements registry tolerance script.statements)
      (Script.runStatements registry' tolerance script'.statements)) :
    (script.tick registry tolerance world).world =
        (script'.tick registry' tolerance world).world ∧
      leeway.Results (leeway.Ticks ending) (script.tick registry tolerance world).tick
        (script'.tick registry' tolerance world).tick := by
  cases hdescribe : World.describe world with
  | error fault =>
      rw [Script.tick_world_of_describe_error hdescribe,
        Script.tick_world_of_describe_error hdescribe,
        Script.tick_of_describe_error hdescribe, Script.tick_of_describe_error hdescribe]
      exact ⟨rfl, .error (faults_refl fault)⟩
  | ok description =>
      obtain ⟨htick, hworld⟩ : (script.tick registry tolerance world).tick = _ ∧
          (script.tick registry tolerance world).world = _ :=
        Script.tick_of_describe hdescribe
      obtain ⟨htick', hworld'⟩ : (script'.tick registry' tolerance world).tick = _ ∧
          (script'.tick registry' tolerance world).world = _ :=
        Script.tick_of_describe hdescribe
      rw [htick, htick', hworld, hworld', ← hlength]
      refine ⟨(h world).world, (h world).result.map ?_⟩
      intro given given' hending
      exact ⟨hending, _, _, _, (h world).trace, rfl, rfl⟩

end Leeway

end Autopilot
