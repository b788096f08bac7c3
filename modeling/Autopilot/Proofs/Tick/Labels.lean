import Autopilot.Proofs.Tick.Casing
import Autopilot.Proofs.Tick.Opening
import Autopilot.Proofs.Tick.Watched

/-!
# The label of a fallback

A fallback is tried whenever it is reached, as a bare command is: the word `ELSE` binds
it to no statement before it.  Scripts in which some fallbacks are bare commands, or the
reverse, do the same in every world, and the word is seen only in the line that opens
such a statement and in the form of the statement that acted.
-/

namespace Autopilot

/-- Two triggers are the same, or only one of them has the label of a fallback. -/
inductive Trigger.SameBesideElse : Trigger → Trigger → Prop
  | refl (trigger : Trigger) : SameBesideElse trigger trigger
  | dropped : SameBesideElse .fallback .always
  | added : SameBesideElse .always .fallback

/-- Two statements differ at most in the label of a fallback. -/
structure Statement.SameBesideElse (statement statement' : Statement) : Prop where
  trigger : statement.trigger.SameBesideElse statement'.trigger
  command : statement.command = statement'.command
  line : statement.line = statement'.line

/-- Two ends of a tick differ at most in the form of the statement that acted. -/
inductive Ending.SameBesideVia : Ending → Ending → Prop
  | acted (action : Action) (via : StatementKind) :
      SameBesideVia (.acted action) (.acted { action with via })
  | refl (ending : Ending) : SameBesideVia ending ending

namespace Ending

variable {ending ending' : Ending}

theorem SameBesideVia.decision (h : ending.SameBesideVia ending') :
    ending.decision? = ending'.decision? := by
  cases h <;> rfl

theorem SameBesideVia.failure (h : ending.SameBesideVia ending') :
    ending.failure? = ending'.failure? := by
  cases h <;> rfl

theorem SameBesideVia.diagnostics (h : ending.SameBesideVia ending') :
    ending.diagnostics = ending'.diagnostics := by
  cases h <;> rfl

theorem SameBesideVia.closing (h : ending.SameBesideVia ending') :
    ending.closing = ending'.closing := by
  cases h <;> rfl

/-- What acted is the same, its form apart. -/
theorem SameBesideVia.action (h : ending.SameBesideVia ending') {action action' : Action}
    (haction : ending.action? = some action) (haction' : ending'.action? = some action') :
    action' = { action with via := action'.via } := by
  cases h with
  | acted =>
      cases haction
      cases haction'
      rfl
  | refl =>
      cases haction.symm.trans haction'
      rfl

end Ending

namespace Leeway

variable {leeway : Leeway} {σ α β : Type} {value : α → β → Prop}

theorem Results.of_strict {result : Except Fault α} {result' : Except Fault β}
    (h : strict.Results value result result') : leeway.Results value result result' := by
  cases h with
  | ok hvalue => exact .ok hvalue
  | error hfault =>
      obtain rfl := hfault.eq fun _ _ hname => hname
      exact .error (faults_refl _)

/-- Runs that are alike in the strictest sense are alike. -/
theorem Runs.of_strict {run : Run σ α} {run' : Run σ β} (h : strict.Runs value run run') :
    leeway.Runs value run run' := by
  intro world
  obtain ⟨hresult, hworld, htrace⟩ := h world
  refine ⟨hresult.of_strict, hworld, htrace.imp ?_⟩
  rintro line _ rfl
  exact leeway.line_refl line

/-- Of two results that are alike both or neither give nothing. -/
theorem Results.eq_none_iff {value : α → β → Prop} {result : Except Fault (Option α)}
    {result' : Except Fault (Option β)}
    (h : leeway.Results (Option.Rel value) result result') :
    result = .ok none ↔ result' = .ok none := by
  cases h with
  | error hfault => simp
  | ok hvalue => cases hvalue <;> simp

end Leeway

/-! ## Statements -/

namespace Statement

variable {σ : Type} {registry : Registry σ} {tolerance : Tolerance}
  {statement statement' : Statement}

/-- Statements that differ in the label have no condition. -/
theorem SameBesideElse.eq_or_kind_ne (h : statement.SameBesideElse statement') :
    statement = statement' ∨
      statement.kind ≠ .conditional ∧ statement'.kind ≠ .conditional := by
  obtain ⟨trigger, command, line⟩ := statement
  obtain ⟨trigger', _, _⟩ := statement'
  obtain ⟨htrigger, rfl, rfl⟩ := h
  cases htrigger with
  | refl => exact Or.inl rfl
  | dropped => exact Or.inr ⟨nofun, nofun⟩
  | added => exact Or.inr ⟨nofun, nofun⟩

theorem SameBesideElse.runs_carryOut (h : statement.SameBesideElse statement') :
    Leeway.strict.Runs (Option.Rel Ending.SameBesideVia) (statement.carryOut registry)
      (statement'.carryOut registry) := by
  rw [carryOut, carryOut, unhandled, unhandled, h.command, h.line]
  apply Leeway.runs_bind_same
  intro _
  cases registry.lookup statement'.command.name with
  | none =>
      apply Leeway.runs_bind_same
      intro ending
      exact Leeway.runs_pure (.some (.refl ending))
  | some handler =>
      apply Leeway.runs_bind_same
      intro outcome
      apply Leeway.runs_bind_same
      intro _
      by_cases hperformed : outcome.performed = true
      · rw [if_pos hperformed, if_pos hperformed]
        exact Leeway.runs_pure (.some (.acted _ _))
      · rw [if_neg hperformed, if_neg hperformed]
        apply Leeway.runs_bind_same
        intro _
        exact Leeway.runs_pure .none

variable [World σ]

theorem SameBesideElse.runs_pursue (h : statement.SameBesideElse statement') :
    Leeway.strict.Runs (Option.Rel Ending.SameBesideVia)
      (statement.pursue registry tolerance) (statement'.pursue registry tolerance) := by
  rcases h.eq_or_kind_ne with rfl | ⟨hkind, hkind'⟩
  · apply Leeway.runs_refl
    intro ending?
    cases ending? with
    | none => exact .none
    | some ending => exact .some (.refl ending)
  · rw [pursue_of_kind hkind, pursue_of_kind hkind']
    exact h.runs_carryOut

/-- After the opening line the label makes no difference. -/
theorem SameBesideElse.runs_proceed (h : statement.SameBesideElse statement') :
    Leeway.strict.Runs (Option.Rel Ending.SameBesideVia)
      (statement.proceed registry tolerance) (statement'.proceed registry tolerance) := by
  apply Leeway.runs_rescue (fun _ _ hline => hline) h.runs_pursue
  rintro kind name _ rfl
  rw [fail, fail, h.line]
  apply Leeway.runs_bind_same
  intro position
  exact Leeway.runs_pure (.some (.refl _))

theorem SameBesideElse.runs_run (h : statement.SameBesideElse statement') :
    Leeway.ofTrace.Runs (Option.Rel Ending.SameBesideVia)
      (statement.run registry tolerance) (statement'.run registry tolerance) := by
  rw [run_eq_proceed, run_eq_proceed]
  apply Leeway.runs_write_bind trivial
  exact h.runs_proceed.of_strict

end Statement

/-! ## Ticks -/

/-- The opening lines of statements, each followed by what else was written for the
statement. -/
def passages (statements : List Statement) (bodies : List (List String)) : List String :=
  (List.zipWith (fun statement body => statement.opening :: body) statements bodies).flatten

/-- Two ticks do the same.  The labels of fallbacks are seen in the opening lines and in
the form of the statement that acted. -/
structure Tick.SameBesideElse {σ : Type} [World σ] (registry : Registry σ)
    (tolerance : Tolerance) (statements statements' : List Statement) (world left : σ)
    (tick tick' : Tick) : Prop where
  failure : tick.failure? = tick'.failure?
  diagnostics : tick.diagnostics = tick'.diagnostics
  action : tick.action? = none ∧ tick'.action? = none ∨
    ∃ k statement statement' action, statements[k]? = some statement ∧
      statements'[k]? = some statement' ∧
      DecidesAt registry tolerance statements world tick left (k, .acts) ∧
      tick.action? = some action ∧ action.via = statement.kind ∧
      tick'.action? = some { action with via := statement'.kind }
  trace : ∃ first bodies last,
    tick.trace = first :: passages statements bodies ++ [last] ∧
    tick'.trace = first :: passages statements' bodies ++ [last]

theorem passages_singleton (statement : Statement) (rest : List Statement)
    (body : List String) :
    passages (statement :: rest) [body] = statement.opening :: body := by
  rw [passages, List.zipWith_cons_cons, List.zipWith_nil_right, List.flatten_singleton]

section Ticks

variable {σ : Type} [World σ] {registry : Registry σ} {tolerance : Tolerance}

/-- Below their opening lines the statements of both lists write the same. -/
theorem Script.exists_passages {statements statements' : List Statement}
    (h : List.Forall₂ Statement.SameBesideElse statements statements') (world : σ) :
    ∃ bodies, ((runStatements registry tolerance statements) world).trace =
        passages statements bodies ∧
      ((runStatements registry tolerance statements') world).trace =
        passages statements' bodies := by
  induction h generalizing world with
  | nil => exact ⟨[], rfl, rfl⟩
  | @cons statement statement' rest rest' hfirst _ ih =>
      have halike : Leeway.strict.Runs (Option.Rel Ending.SameBesideVia)
          (statement.proceed registry tolerance) (statement'.proceed registry tolerance) :=
        hfirst.runs_proceed
      obtain ⟨hresult, hworld, htrace⟩ := halike world
      replace htrace : _ = _ := List.forall₂_eq_eq_eq ▸ htrace
      by_cases hpassed : ((statement.proceed registry tolerance) world).result = .ok none
      · obtain ⟨bodies, hbodies, hbodies'⟩ :=
          ih ((statement.proceed registry tolerance) world).world
        refine ⟨((statement.proceed registry tolerance) world).trace :: bodies, ?_, ?_⟩
        · rw [trace_runStatements_cons_of_passed rest hpassed, hbodies]
          rfl
        · rw [trace_runStatements_cons_of_passed rest' (hresult.eq_none_iff.mp hpassed),
            ← hworld, hbodies', ← htrace]
          rfl
      · have hpassed' := mt hresult.eq_none_iff.mpr hpassed
        refine ⟨[((statement.proceed registry tolerance) world).trace], ?_, ?_⟩
        · rw [trace_runStatements_cons_of_not_passed rest hpassed, passages_singleton]
        · rw [trace_runStatements_cons_of_not_passed rest' hpassed', passages_singleton,
            htrace]

/-- What acted in two ticks that were decided at the same place is the same, its form
apart. -/
theorem SamePlace.action {statements statements' : List Statement} {world left : σ}
    {tick tick' : Tick}
    (h : SamePlace registry tolerance statements statements' world tick tick' left)
    (hending : tick.ending.SameBesideVia tick'.ending) :
    tick.action? = none ∧ tick'.action? = none ∨
      ∃ k statement statement' action, statements[k]? = some statement ∧
        statements'[k]? = some statement' ∧
        DecidesAt registry tolerance statements world tick left (k, .acts) ∧
        tick.action? = some action ∧ action.via = statement.kind ∧
        tick'.action? = some { action with via := statement'.kind } := by
  rcases h with ⟨-, -, hexhausted, hexhausted'⟩ | ⟨⟨k, decision⟩, hdecides, hdecides'⟩
  · rw [Tick.action?, Tick.action?, hexhausted, hexhausted']
    exact Or.inl ⟨rfl, rfl⟩
  obtain ⟨statement, reached, hfound, -, hdecision⟩ := id hdecides
  obtain ⟨statement', reached', hfound', -, hdecision'⟩ := hdecides'
  cases hdecision with
  | fails _ _ _ _ haction =>
      cases hdecision' with
      | fails _ _ _ _ haction' => exact Or.inl ⟨haction, haction'⟩
  | lacksHandler _ _ _ _ haction =>
      cases hdecision' with
      | lacksHandler _ _ _ _ haction' => exact Or.inl ⟨haction, haction'⟩
  | idles _ _ _ _ _ haction =>
      cases hdecision' with
      | idles _ _ _ _ _ haction' => exact Or.inl ⟨haction, haction'⟩
  | acts _ _ _ _ haction =>
      cases hdecision' with
      | acts _ _ _ _ haction' =>
          refine Or.inr ⟨k, statement, statement', _, hfound, hfound', hdecides, haction,
            rfl, ?_⟩
          rw [haction', hending.action haction haction']

/-- Two scripts that differ only in labels of fallbacks leave the same world, and stop
with the same fault or do the same. -/
theorem Script.tick_alike_of_sameBesideElse {script script' : Script}
    (h : List.Forall₂ Statement.SameBesideElse script.statements script'.statements)
    (registry : Registry σ) (tolerance : Tolerance) (world : σ) :
    let outcome := script.tick registry tolerance world
    let outcome' := script'.tick registry tolerance world
    outcome.world = outcome'.world ∧
      ((∃ fault, outcome.tick = .error fault ∧ outcome'.tick = .error fault) ∨
        ∃ tick tick', outcome.tick = .ok tick ∧ outcome'.tick = .ok tick' ∧
          Tick.SameBesideElse registry tolerance script.statements script'.statements
            world outcome.world tick tick') := by
  intro outcome outcome'
  have halike : List.Forall₂ (fun statement statement' : Statement =>
      Leeway.ofTrace.Runs (Option.Rel Ending.SameBesideVia)
        (statement.run registry tolerance) (statement'.run registry tolerance))
      script.statements script'.statements := h.imp fun _ _ hsame => hsame.runs_run
  have hruns := Leeway.runs_runStatements halike (.refl _)
  obtain ⟨hleft, htick⟩ : outcome.world = outcome'.world ∧
      Leeway.ofTrace.Results (Leeway.ofTrace.Ticks Ending.SameBesideVia) outcome.tick
        outcome'.tick := Leeway.ticks_of_runs world h.length_eq hruns
  refine ⟨hleft, ?_⟩
  rcases htick.exists_of_results with
    ⟨fault, fault', hfault, hfault', hsame⟩ | ⟨tick, tick', htick, htick', hticks⟩
  · obtain rfl := hsame.eq fun _ _ hname => hname
    exact Or.inl ⟨fault, hfault, hfault'⟩
  · obtain ⟨description, hdescribe, hrun, htrace⟩ := exists_of_tick_eq_ok htick
    obtain ⟨description', hdescribe', hrun', htrace'⟩ := exists_of_tick_eq_ok htick'
    obtain rfl : description = description' :=
      Except.ok.inj (hdescribe.symm.trans hdescribe')
    rw [← hleft] at hrun'
    have hplace := samePlace_of_runs halike (fun _ _ hending => hending.decision) hrun hrun'
    obtain ⟨bodies, hbodies, hbodies'⟩ := exists_passages h world
    rw [hbodies] at htrace
    rw [hbodies', ← hticks.ending.closing, length, ← h.length_eq] at htrace'
    exact Or.inr ⟨tick, tick', htick, htick', hticks.ending.failure,
      hticks.ending.diagnostics, hplace.action hticks.ending, _, bodies, _, htrace, htrace'⟩

/-- The label of a fallback makes no difference to what a tick does, to what it leaves,
and to the names that the world is asked for. -/
theorem Script.tick_sameBesideElse {script script' : Script}
    (h : List.Forall₂ Statement.SameBesideElse script.statements script'.statements) :
    (∀ (registry : Registry σ) (tolerance : Tolerance) (world : σ),
      let outcome := script.tick registry tolerance world
      let outcome' := script'.tick registry tolerance world
      outcome.world = outcome'.world ∧
        ((∃ fault, outcome.tick = .error fault ∧ outcome'.tick = .error fault) ∨
          ∃ tick tick', outcome.tick = .ok tick ∧ outcome'.tick = .ok tick' ∧
            Tick.SameBesideElse registry tolerance script.statements script'.statements
              world outcome.world tick tick')) ∧
      ∀ (registry : Registry (Watched σ)) (tolerance : Tolerance) (watched : Watched σ),
        (script.tick registry tolerance watched).world.lookups =
          (script'.tick registry tolerance watched).world.lookups := by
  refine ⟨tick_alike_of_sameBesideElse h, ?_⟩
  intro registry tolerance watched
  obtain ⟨hleft, -⟩ := tick_alike_of_sameBesideElse h registry tolerance watched
  exact congrArg Watched.lookups hleft

/-- A landing after a hover that does not act: the two change labels. -/
theorem Script.tick_sameBesideElse_landing :
    let world : Rig := ⟨"rig", [], [("storm", false)], ⟨[]⟩, .int 7, []⟩
    let registry : Registry Rig := .ofEntries
      [("hover", Recipe.handle ⟨false, none, none, true, []⟩),
        ("land", Recipe.handle ⟨true, none, none, false, ["Down."]⟩)]
    let first : Statement := ⟨.condition (.query "storm"), ⟨"land", []⟩, 1⟩
    let script : Script :=
      ⟨[first, ⟨.fallback, ⟨"hover", []⟩, 2⟩, ⟨.always, ⟨"land", []⟩, 3⟩]⟩
    let script' : Script :=
      ⟨[first, ⟨.always, ⟨"hover", []⟩, 2⟩, ⟨.fallback, ⟨"land", []⟩, 3⟩]⟩
    let outcome := script.tick registry .thousandth world
    List.Forall₂ Statement.SameBesideElse script.statements script'.statements ∧
      ∃ tick tick', outcome.tick = .ok tick ∧
        (script'.tick registry .thousandth world).tick = .ok tick' ∧
        tick.action? = some ⟨⟨"land", []⟩, 3, .command, ["Down."]⟩ ∧
        tick'.action? = some ⟨⟨"land", []⟩, 3, .fallback, ["Down."]⟩ ∧
        Tick.SameBesideElse registry .thousandth script.statements script'.statements
          world outcome.world tick tick' := by
  intro world registry first script script' outcome
  have hsame : List.Forall₂ Statement.SameBesideElse script.statements
      script'.statements :=
    .cons ⟨.refl _, rfl, rfl⟩ (.cons ⟨.dropped, rfl, rfl⟩ (.cons ⟨.added, rfl, rfl⟩ .nil))
  have hgiven : outcome.tick = .ok ⟨_, .acted ⟨⟨"land", []⟩, 3, .command, ["Down."]⟩⟩ := rfl
  have hgiven' : (script'.tick registry .thousandth world).tick =
      .ok ⟨_, .acted ⟨⟨"land", []⟩, 3, .fallback, ["Down."]⟩⟩ := rfl
  obtain ⟨-, ⟨fault, hfault, -⟩ | ⟨tick, tick', htick, htick', hticks⟩⟩ :=
    (Script.tick_sameBesideElse hsame).1 registry .thousandth world
  · cases hgiven.symm.trans hfault
  · obtain rfl := Except.ok.inj (hgiven.symm.trans htick)
    obtain rfl := Except.ok.inj (hgiven'.symm.trans htick')
    exact ⟨hsame, _, _, rfl, rfl, rfl, rfl, hticks⟩

end Ticks

end Autopilot
