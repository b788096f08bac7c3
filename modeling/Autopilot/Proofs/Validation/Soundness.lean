import Autopilot.Proofs.Command.Assembly
import Autopilot.Proofs.Tick.Decision
import Autopilot.Proofs.Validation.Violations
import Autopilot.Source.Study

/-!
# What the check of a script promises for its ticks

A tick of a drone can end at a name that the drone does not know, or at a command
without a handler.  Both are forewarned: the check of the script against the names of the
drone and of the registry has a remark at the same place that says the same.  So a script
without such remarks ends no tick in either way.
-/

namespace Autopilot

/-! ## What a tick reports -/

section Reports

variable {σ : Type} [World σ] {registry : Registry σ} {tolerance : Tolerance}
  {script : Script} {world : σ} {tick : Tick}

/-- A tick that reports anything was decided by one of the statements. -/
theorem Script.exists_decides_of_tick
    (htick : (script.tick registry tolerance world).tick = .ok tick)
    (hending : tick.ending ≠ .exhausted) :
    ∃ statement ∈ script.statements, ∃ reached left decision,
      statement.Decides registry tolerance reached tick left decision := by
  obtain ⟨description, -, hrun, -⟩ := exists_of_tick_eq_ok htick
  rcases passesAll_or_exists_decidesAt hrun with ⟨-, hexhausted⟩ | ⟨⟨k, decision⟩, hdecides⟩
  · exact absurd hexhausted hending
  · obtain ⟨statement, reached, hfound, -, hdecides⟩ := hdecides
    exact ⟨statement, List.mem_of_getElem? hfound, reached, _, decision, hdecides⟩

/-- A failure is that of a statement that asked for an unknown name. -/
theorem Script.exists_misses_of_failure {failure : Failure}
    (htick : (script.tick registry tolerance world).tick = .ok tick)
    (hfailure : tick.failure? = some failure) :
    ∃ statement ∈ script.statements, ∃ reached left position,
      statement.Misses registry tolerance failure.kind failure.name reached left ∧
      Position.lineStart statement.line = .ok position ∧
      failure = ⟨failure.kind, failure.name, statement.line,
        Statement.unknownNameRemark failure.kind failure.name position⟩ := by
  have hending : tick.ending ≠ .exhausted := by
    intro hexhausted
    rw [Tick.failure?, hexhausted] at hfailure
    cases hfailure
  obtain ⟨statement, hstatement, reached, left, decision, hdecides⟩ :=
    exists_decides_of_tick htick hending
  cases hdecides with
  | fails hmisses hposition hfailed =>
      obtain rfl := Option.some.inj (hfailed.symm.trans hfailure)
      exact ⟨statement, hstatement, reached, left, _, hmisses, hposition, rfl⟩
  | acts _ _ _ _ _ hnone =>
      rw [hnone] at hfailure
      cases hfailure
  | lacksHandler _ _ _ _ _ hnone =>
      rw [hnone] at hfailure
      cases hfailure
  | idles _ _ _ _ _ _ hnone =>
      rw [hnone] at hfailure
      cases hfailure

theorem Statement.code_missing_ne (kind : NameKind) :
    (missing kind).code ≠ Remark.missingCommand.code := by
  cases kind
  · decide
  · decide

/-- A report on an unknown command is on a statement whose command has no handler. -/
theorem Script.exists_lacksHandler_of_diagnostic {d : Diagnostic}
    (htick : (script.tick registry tolerance world).tick = .ok tick)
    (hd : d ∈ tick.diagnostics) (hcode : d.code = Remark.missingCommand.code) :
    ∃ statement ∈ script.statements, ∃ position,
      registry.lookup statement.command.name = none ∧
      Position.lineStart statement.line = .ok position ∧
      d = statement.unknownCommandRemark position := by
  have hending : tick.ending ≠ .exhausted := by
    intro hexhausted
    rw [Tick.diagnostics, hexhausted] at hd
    cases hd
  obtain ⟨statement, hstatement, reached, left, decision, hdecides⟩ :=
    exists_decides_of_tick htick hending
  cases hdecides with
  | lacksHandler _ hhandler hposition hdiagnostics =>
      rw [hdiagnostics, List.mem_singleton] at hd
      exact ⟨statement, hstatement, _, hhandler, hposition, hd⟩
  | fails _ _ _ hdiagnostics =>
      rw [hdiagnostics, List.mem_singleton] at hd
      rw [hd] at hcode
      exact absurd hcode (Statement.code_missing_ne _)
  | acts _ _ _ _ _ _ hdiagnostics =>
      rw [hdiagnostics] at hd
      cases hd
  | idles _ _ _ _ _ _ _ hdiagnostics =>
      rw [hdiagnostics] at hd
      cases hd

end Reports

/-! ## The names of a drone -/

/-- The names of a kind that a drone provides. -/
def Drone.names : NameKind → List String
  | .query => queryNames
  | .variable => variableNames

namespace Drone

variable {drone : Drone} {asked : String} {fault : Fault}

theorem flag_eq_error (h : drone.flag asked = .error fault) :
    fault = .unknownName .query asked ∧ Text.lowercase asked ∉ names .query := by
  rw [flag] at h
  split at h
  · cases h
  · rename_i hlookup
    exact ⟨(Except.error.inj h).symm, lookup_eq_none_iff_notMem.mp hlookup⟩

theorem number_eq_error (h : drone.number asked = .error fault) :
    fault = .unknownName .variable asked ∧ Text.lowercase asked ∉ names .variable := by
  rw [number] at h
  split at h
  · cases h
  · rename_i hlookup
    exact ⟨(Except.error.inj h).symm, lookup_eq_none_iff_notMem.mp hlookup⟩

end Drone

/-- A drone misses a name only if it is asked for it, and does not provide it. -/
theorem Condition.AsksUnknown.notMem_names {condition : Condition} {kind : NameKind}
    {name : String} {left : Drone} (h : condition.AsksUnknown kind name left) :
    name ∈ condition.names kind ∧ Text.lowercase name ∉ Drone.names kind := by
  cases h with
  | ofQuery hasked hflag =>
      obtain ⟨hfault, hnotMem⟩ := Drone.flag_eq_error (congrArg Prod.fst hflag)
      obtain ⟨rfl, rfl⟩ := Fault.unknownName.inj hfault
      exact ⟨hasked, hnotMem⟩
  | ofVariable hasked hnumber =>
      obtain ⟨hfault, hnotMem⟩ := Drone.number_eq_error (congrArg Prod.fst hnumber)
      obtain ⟨rfl, rfl⟩ := Fault.unknownName.inj hfault
      exact ⟨hasked, hnotMem⟩

/-- The remark of a check on a name of a kind that is not known. -/
def Remark.unlisted : NameKind → Remark
  | .query => unlistedQuery
  | .variable => unlistedVariable

/-- The known names of a kind. -/
def Rules.known (rules : Rules) : NameKind → List String
  | .query => rules.knownQueries
  | .variable => rules.knownVariables

namespace Rules

theorem isListed_forDrone {commands : List String} {kind : NameKind} {name : String}
    (h : Text.lowercase name ∉ Drone.names kind) :
    isListed ((forDrone Option.none commands).known kind) name = false := by
  have hlowered : ∀ kind, ((forDrone Option.none commands).known kind).map Text.lowercase =
      Drone.names kind := by
    intro kind
    cases kind
    · rfl
    · rfl
  rw [isListed_eq_false_iff, hlowered]
  refine ⟨?_, h⟩
  cases kind
  · exact List.cons_ne_nil _ _
  · exact List.cons_ne_nil _ _

/-- A name that a condition may look up and that is not known is remarked on. -/
theorem mem_violations_of_name {rules : Rules} {script : Script} {statement : Statement}
    {condition : Condition} {kind : NameKind} {name : String}
    (hstatement : statement ∈ script.statements)
    (htrigger : statement.trigger = .condition condition)
    (hname : name ∈ condition.names kind)
    (hlisted : isListed (rules.known kind) name = false) :
    rules.nameViolation (.unlisted kind) kind.word
      ((rules.known kind).map Text.lowercase) statement.line name ∈
        rules.violations script := by
  apply mem_violations_of_condition hstatement htrigger
  cases kind
  · apply List.mem_append_left
    exact List.mem_append_right _ (mem_nameViolations hname hlisted)
  · exact List.mem_append_right _ (mem_nameViolations hname hlisted)

end Rules

/-! ## Ticks one after the other -/

/-- The ticks of a script one after the other.  Before each tick the world that the tick
before it left may change. -/
def Script.ticks {σ : Type} [World σ] (registry : Registry σ) (tolerance : Tolerance)
    (script : Script) : List (σ → σ) → σ → List (TickOutcome σ)
  | [], _ => []
  | change :: rest, world =>
    let outcome := script.tick registry tolerance (change world)
    outcome :: ticks registry tolerance script rest outcome.world

/-- Each of several ticks is the tick of some world. -/
theorem Script.exists_tick_of_mem_ticks {σ : Type} [World σ] {registry : Registry σ}
    {tolerance : Tolerance} {script : Script} {changes : List (σ → σ)} {world : σ}
    {outcome : TickOutcome σ}
    (h : outcome ∈ script.ticks registry tolerance changes world) :
    ∃ reached, outcome = script.tick registry tolerance reached := by
  induction changes generalizing world with
  | nil => cases h
  | cons change rest ih =>
      rcases List.mem_cons.mp h with rfl | hrest
      · exact ⟨change world, rfl⟩
      · exact ih hrest

/-! ## The promise -/

section Promise

variable {script : Script} {registry : Registry Drone} {tolerance : Tolerance}
  {drone : Drone} {tick : Tick}

/-- A failure of a tick is forewarned: there is a remark of the check on the same line
that says the same. -/
theorem Rules.exists_violation_of_failure {failure : Failure}
    (hregistry : registry.BuiltOf Handler.NeverMisses)
    (htick : (script.tick registry tolerance drone).tick = .ok tick)
    (hfailure : tick.failure? = some failure) :
    ∃ warning ∈ (forDrone Option.none registry.names).violations script,
      warning.code = (Remark.unlisted failure.kind).code ∧
      Position.lineStart failure.line = .ok warning.position ∧
      warning.message = "Unknown " ++ failure.kind.word ++ " `" ++ failure.name ++ "`." ∧
      warning.message = failure.diagnostic.message := by
  obtain ⟨statement, hstatement, reached, left, position, hmisses, hposition, heq⟩ :=
    Script.exists_misses_of_failure htick hfailure
  cases hmisses with
  | inCondition htrigger hvalue =>
      obtain ⟨hname, hnotMem⟩ := (Condition.asksUnknown_of_leaves hvalue).notMem_names
      refine ⟨_, mem_violations_of_name hstatement htrigger hname
        (isListed_forDrone hnotMem), rfl, ?_, rfl, ?_⟩
      · rw [Position.eq_ofLine_of_lineStart hposition] at hposition
        rw [heq]
        exact hposition
      · rw [heq]
        rfl
  | inHandler _ hhandler hcall =>
      have hnameless := hregistry.sort_of_lookup hhandler statement.command
      exact absurd (congrArg Prod.fst hcall) (hnameless _ _ _)

/-- A report on an unknown command is forewarned: there is a remark of the check at the
same place that says the same. -/
theorem Rules.exists_violation_of_unknownCommand {d : Diagnostic}
    (hregistry : registry.BuiltOf Handler.NeverMisses)
    (htick : (script.tick registry tolerance drone).tick = .ok tick)
    (hd : d ∈ tick.diagnostics) (hcode : d.code = Remark.missingCommand.code) :
    ∃ warning ∈ (forDrone Option.none registry.names).violations script,
      warning.code = Remark.unlistedCommand.code ∧ warning.position = d.position ∧
      warning.message = d.message := by
  obtain ⟨statement, hstatement, position, hhandler, hposition, rfl⟩ :=
    Script.exists_lacksHandler_of_diagnostic htick hd hcode
  have hknown : (forDrone Option.none registry.names).knownCommands = registry.names :=
    hregistry.map_lowercase_names
  have hlisted : isListed (forDrone Option.none registry.names).knownCommands
      statement.command.name = false := by
    rw [isListed_eq_false_iff, hknown, hregistry.map_lowercase_names]
    exact ⟨hregistry.names_ne_nil, Registry.lookup_eq_none_iff.mp hhandler⟩
  have hname := List.mem_singleton_self statement.command.name
  refine ⟨_, mem_violations_of_command hstatement (mem_nameViolations hname hlisted), rfl,
    ?_, rfl⟩
  exact (Position.eq_ofLine_of_lineStart hposition).symm

end Promise

/-- The check of a script is sound for its ticks in a drone.  An unknown command and a
failure of a tick are remarked on by the check at the same place and with the same
message, and a script without such remarks has neither in any tick, whatever the drone
is and however it changes between the ticks. -/
theorem Script.check_forDrone_sound {script : Script} {registry : Registry Drone}
    (hlines : ∀ statement ∈ script.statements, 1 ≤ statement.line)
    (hregistry : registry.BuiltOf Handler.NeverMisses) :
    ∃ remarks, (Rules.forDrone none registry.names).check script = .ok remarks ∧
      (∀ tolerance drone tick, (script.tick registry tolerance drone).tick = .ok tick →
        (∀ d ∈ tick.diagnostics, d.code = Remark.missingCommand.code →
          d.position.column = 1 ∧ ∃ warning ∈ remarks,
            warning.code = Remark.unlistedCommand.code ∧
            warning.position = d.position ∧ warning.message = d.message) ∧
        ∀ failure ∈ tick.failure?, ∃ warning ∈ remarks,
          warning.code = (Remark.unlisted failure.kind).code ∧
          Position.lineStart failure.line = .ok warning.position ∧
          warning.message =
            "Unknown " ++ failure.kind.word ++ " `" ++ failure.name ++ "`." ∧
          warning.message = failure.diagnostic.message) ∧
      ((∀ warning ∈ remarks, warning.code ≠ Remark.unlistedCommand.code ∧
          ∀ kind, warning.code ≠ (Remark.unlisted kind).code) →
        ∀ tolerance changes drone,
          ∀ outcome ∈ script.ticks registry tolerance changes drone,
            ∀ tick, outcome.tick = .ok tick → tick.failure? = none ∧
              ∀ d ∈ tick.diagnostics, d.code ≠ Remark.missingCommand.code) := by
  refine ⟨_, Rules.check_of_lines hlines, ?_, ?_⟩
  · intro tolerance drone tick htick
    constructor
    · intro d hd hcode
      refine ⟨?_, Rules.exists_violation_of_unknownCommand hregistry htick hd hcode⟩
      obtain ⟨statement, -, position, -, hposition, rfl⟩ :=
        exists_lacksHandler_of_diagnostic htick hd hcode
      rw [Position.eq_ofLine_of_lineStart hposition]
      rfl
    · intro failure hfailure
      exact Rules.exists_violation_of_failure hregistry htick hfailure
  · intro hclean tolerance changes drone outcome houtcome tick htick
    obtain ⟨reached, rfl⟩ := exists_tick_of_mem_ticks houtcome
    constructor
    · by_cases hfailure : tick.failure? = none
      · exact hfailure
      · obtain ⟨failure, hfailure⟩ := Option.ne_none_iff_exists'.mp hfailure
        obtain ⟨warning, hwarning, hcode, -⟩ :=
          Rules.exists_violation_of_failure hregistry htick hfailure
        exact absurd hcode ((hclean warning hwarning).2 _)
    · intro d hd hcode
      obtain ⟨warning, hwarning, hunlisted, -⟩ :=
        Rules.exists_violation_of_unknownCommand hregistry htick hd hcode
      exact (hclean warning hwarning).1 hunlisted

/-- A dance that nobody taught the drone and a query that only a storm brings up are both
forewarned; a script without unknown names never fails. -/
theorem Script.check_forDrone_sound_dance :
    let registry : Registry Drone :=
      ⟨[("wait", BuiltIn.wait.handle),
        ("scan", Recipe.handle ⟨false, none, none, true, ["Scanning."]⟩)]⟩
    let dance : Script :=
      ⟨[⟨.condition (.logical (.query "storm_active") .conj (.query "Gale")),
          ⟨"Wait", [.number "3"]⟩, 1⟩,
        ⟨.fallback, ⟨"dance", []⟩, 2⟩]⟩
    let shelter : Script :=
      ⟨[⟨.condition (.query "Storm_Active"), ⟨"Wait", [.number "3"]⟩, 1⟩]⟩
    let stormy : Drone := { Drone.fresh with stormActive := true }
    (∃ remarks, (Rules.forDrone none registry.names).check dance = .ok remarks ∧
      (∃ tick, (dance.tick registry .thousandth .fresh).tick = .ok tick ∧
        tick.diagnostics.map (·.code) = [Remark.missingCommand.code] ∧
        ∃ warning ∈ remarks, warning.code = Remark.unlistedCommand.code ∧
          warning.position = ⟨2, 1, by decide, by decide⟩ ∧
          warning.message = "Unknown command `dance`.") ∧
      ∃ tick, (dance.tick registry .thousandth stormy).tick = .ok tick ∧
        tick.failed = true ∧
        ∃ warning ∈ remarks, warning.code = Remark.unlistedQuery.code ∧
          warning.message = "Unknown query `Gale`.") ∧
    ∀ changes drone, ∀ outcome ∈ shelter.ticks registry .thousandth changes drone,
      ∀ tick, outcome.tick = .ok tick → tick.failure? = none := by
  intro registry dance shelter stormy
  have hunload : ∀ drone : Drone, Nameless (World.unload drone).1 := by
    intro drone
    exact nameless_ok _
  have hwait : (BuiltIn.wait.handle : Handler Drone).NeverMisses :=
    BuiltIn.neverMisses_handle hunload .wait
  have hscan : (Recipe.handle ⟨false, none, none, true, ["Scanning."]⟩ :
      Handler Drone).NeverMisses :=
    Recipe.neverMisses_handle hunload rfl rfl
  have hfirst : Registry.empty.register "Wait" (some BuiltIn.wait.handle) =
      .ok (⟨[("wait", BuiltIn.wait.handle)]⟩ : Registry Drone) := rfl
  have hnext : Registry.register ⟨[("wait", BuiltIn.wait.handle)]⟩ "scan"
      (some (Recipe.handle ⟨false, none, none, true, ["Scanning."]⟩)) =
        .ok registry := rfl
  have hregistry : registry.BuiltOf Handler.NeverMisses :=
    .next (.first hfirst hwait) hnext hscan
  have hdance : ∀ statement ∈ dance.statements, 1 ≤ statement.line := by decide
  have hshelter : ∀ statement ∈ shelter.statements, 1 ≤ statement.line := by decide
  constructor
  · obtain ⟨remarks, hcheck, hwarned, -⟩ := check_forDrone_sound hdance hregistry
    refine ⟨remarks, hcheck, ?_, ?_⟩
    · have htick : (dance.tick registry .thousandth .fresh).tick =
          .ok ⟨_, .unhandled 2 _⟩ := rfl
      obtain ⟨hcommands, -⟩ := hwarned _ _ _ htick
      obtain ⟨-, hwarning⟩ := hcommands _ List.mem_cons_self rfl
      exact ⟨_, htick, rfl, hwarning⟩
    · have htick : (dance.tick registry .thousandth stormy).tick =
          .ok ⟨_, .failed ⟨.query, "Gale", 1, _⟩⟩ := rfl
      obtain ⟨-, hfailures⟩ := hwarned _ _ _ htick
      obtain ⟨warning, hwarning, hcode, -, hmessage, -⟩ := hfailures _ rfl
      exact ⟨_, htick, rfl, warning, hwarning, hcode, hmessage⟩
  · obtain ⟨remarks, hcheck, -, hclean⟩ := check_forDrone_sound hshelter hregistry
    obtain rfl : remarks = [] := (Except.ok.inj hcheck).symm
    intro changes drone outcome houtcome tick htick
    have hnone : ∀ warning ∈ ([] : List Diagnostic),
        warning.code ≠ Remark.unlistedCommand.code ∧
          ∀ kind, warning.code ≠ (Remark.unlisted kind).code := by
      intro warning hwarning
      cases hwarning
    exact (hclean hnone _ changes drone outcome houtcome tick htick).1

end Autopilot
