import Autopilot.Proofs.Command.History
import Autopilot.Proofs.Text.Lowercase
import Autopilot.Proofs.Validation.Soundness
import Autopilot.Proofs.Validation.Vocabulary

/-!
# Registries that take names in any letter case

A handler is looked up by the lower case of a name.  Registering puts it under the lower
case, but a registry that is made from entries takes their keys as they are.  So it
answers in one way about its names, to those who look them up, count them or check a
script against them, exactly if these keys are in lower case.
-/

namespace Autopilot

open Text

variable {σ : Type}

/-- A diagnostic of a tick is on a command of a name that has no handler. -/
def Diagnostic.IsOnMissing (name : String) (d : Diagnostic) : Prop :=
  d.code = Remark.missingCommand.code ∧ d.message = "Unknown command `" ++ name ++ "`."

/-- A tick of a script reaches a command of a name: the statements before it are passed,
and its condition holds if it has one. -/
def Script.ReachesCommand [World σ] (script : Script) (registry : Registry σ)
    (tolerance : Tolerance) (world : σ) (name : String) : Prop :=
  (∃ description, World.describe world = .ok description) ∧
    ∃ k statement reached left, script.statements[k]? = some statement ∧
      statement.command.name = name ∧
      PassesAll registry tolerance (script.statements.take k) world reached ∧
      statement.Reaches tolerance reached left

namespace Registry

/-- A registry answers in one way about its names: they are found in any letter case, no
two of them are the same in lower case, and a check of a script against them warns of a
command that a tick reaches exactly if the tick reports it. -/
structure IsCaseless [World σ] (registry : Registry σ) : Prop where
  found : ∀ name ∈ registry.names, ∀ spelled, lowercase spelled = lowercase name →
    registry.contains spelled = true ∧ ∃ handler, registry.lookup spelled = some handler
  length : (registry.names.map lowercase).toFinset.card = registry.length
  agrees : registry.names ≠ [] → ∀ script tolerance world name,
    (∀ statement ∈ script.statements, 1 ≤ statement.line) →
    script.ReachesCommand registry tolerance world name →
      ((∃ remarks, (Rules.forDrone none registry.names).check script = .ok remarks ∧
          ∃ warning ∈ remarks, warning.IsOn .command name) ↔
        ∃ tick, (script.tick registry tolerance world).tick = .ok tick ∧
          ∃ d ∈ tick.diagnostics, d.IsOnMissing name)

/-- The names of a registry are in lower case. -/
def IsLowered (registry : Registry σ) : Prop :=
  ∀ name ∈ registry.names, lowercase name = name

/-! ## Names -/

theorem mem_names_foldl_put {name : String} (registry : Registry σ)
    (entries : List (String × Handler σ)) :
    name ∈ (entries.foldl (fun registry entry => registry.put entry.1 entry.2)
        registry).names ↔
      name ∈ registry.names ∨ ∃ entry ∈ entries, entry.1 = name := by
  induction entries generalizing registry with
  | nil => simp
  | cons entry rest ih =>
      rw [List.foldl_cons, ih, mem_names_put]
      simp [or_assoc, eq_comm]

theorem mem_names_ofEntries_iff {name : String} {entries : List (String × Handler σ)} :
    name ∈ (ofEntries entries).names ↔ ∃ entry ∈ entries, entry.1 = name := by
  rw [ofEntries, mem_names_foldl_put]
  simp [names, empty]

theorem nodup_names_foldl_put {registry : Registry σ} (h : registry.names.Nodup)
    (entries : List (String × Handler σ)) :
    (entries.foldl (fun registry entry => registry.put entry.1 entry.2)
      registry).names.Nodup := by
  induction entries generalizing registry with
  | nil => exact h
  | cons entry rest ih => exact ih (nodup_names_put h)

theorem nodup_names_ofEntries (entries : List (String × Handler σ)) :
    (ofEntries entries).names.Nodup := by
  have hempty : (empty : Registry σ).names.Nodup := List.nodup_nil
  exact nodup_names_foldl_put hempty entries

theorem nodup_names_attempt {registry : Registry σ} (h : registry.names.Nodup)
    (call : Registering σ) : (registry.attempt call).names.Nodup := by
  obtain ⟨handler, -, -, -, hattempt⟩ | ⟨-, hattempt⟩ := registry.attempt_cases call
  · rw [hattempt]
    exact nodup_names_put h
  · rw [hattempt]
    exact h

theorem nodup_names_foldl_attempt {registry : Registry σ} (h : registry.names.Nodup)
    (calls : List (Registering σ)) : (calls.foldl attempt registry).names.Nodup := by
  induction calls generalizing registry with
  | nil => exact h
  | cons call rest ih => exact ih (nodup_names_attempt h call)

/-- A call adds no name that is not in lower case, and takes none away. -/
theorem isLowered_attempt_iff {registry : Registry σ} {call : Registering σ} :
    (registry.attempt call).IsLowered ↔ registry.IsLowered := by
  obtain ⟨handler, -, -, -, hattempt⟩ | ⟨-, hattempt⟩ := registry.attempt_cases call
  · rw [hattempt]
    constructor
    · intro h name hname
      exact h name (mem_names_put.mpr (Or.inl hname))
    · intro h name hname
      rcases mem_names_put.mp hname with hname | rfl
      · exact h name hname
      · exact lowercase_lowercase call.name
  · rw [hattempt]

theorem isLowered_foldl_attempt_iff {registry : Registry σ}
    (calls : List (Registering σ)) :
    (calls.foldl attempt registry).IsLowered ↔ registry.IsLowered := by
  induction calls generalizing registry with
  | nil => rfl
  | cons call rest ih => rw [List.foldl_cons, ih, isLowered_attempt_iff]

theorem isLowered_ofEntries_iff {entries : List (String × Handler σ)} :
    (ofEntries entries).IsLowered ↔ ∀ entry ∈ entries, lowercase entry.1 = entry.1 := by
  constructor
  · intro h entry hentry
    exact h entry.1 (mem_names_ofEntries_iff.mpr ⟨entry, hentry, rfl⟩)
  · intro h name hname
    obtain ⟨entry, hentry, rfl⟩ := mem_names_ofEntries_iff.mp hname
    exact h entry hentry

theorem IsLowered.map_lowercase_names {registry : Registry σ} (h : registry.IsLowered) :
    registry.names.map lowercase = registry.names := by
  rw [List.map_congr_left h, List.map_id']

end Registry

/-! ## What a check and a tick say about a command -/

/-- A check warns of a command of a script exactly if its name is not listed. -/
theorem Rules.exists_isOn_command_iff {rules : Rules} {script : Script} {name : String}
    (hlines : ∀ statement ∈ script.statements, 1 ≤ statement.line)
    (hname : ∃ statement ∈ script.statements, statement.command.name = name) :
    (∃ remarks, rules.check script = .ok remarks ∧
      ∃ warning ∈ remarks, warning.IsOn .command name) ↔
        isListed rules.knownCommands name = false := by
  constructor
  · rintro ⟨remarks, hcheck, warning, hwarning, hcode, hmessage⟩
    obtain rfl := Except.ok.inj ((check_eq_findings rules hlines).symm.trans hcheck)
    obtain ⟨finding, hfinding, rfl⟩ := List.mem_map.mp hwarning
    rcases finding_cases hfinding with ⟨-, hother⟩ |
      ⟨occurrence, statement, found, -, -, -, hlisted, hdiagnostic⟩
    · exact absurd hcode (hother .command)
    · rw [nameViolation_unlisted] at hdiagnostic
      rw [hdiagnostic] at hcode hmessage
      have hsort := NameSort.unlistedCode_injective hcode
      rw [hsort] at hlisted hmessage
      obtain rfl : found = name := by simpa using hmessage
      exact hlisted
  · intro hlisted
    obtain ⟨statement, hstatement, rfl⟩ := hname
    have hmem : _ ∈ rules.violations script := mem_violations_of_command hstatement
      (mem_nameViolations (List.mem_singleton_self _) hlisted)
    exact ⟨_, check_of_lines hlines, _, hmem, rfl, rfl⟩

section Ticks

variable [World σ] {registry : Registry σ} {tolerance : Tolerance} {statement : Statement}
  {world left : σ}

/-- A command without a handler that is reached ends the tick with a remark on it. -/
theorem Statement.Reaches.leaves_run_unhandled (h : statement.Reaches tolerance world left)
    (hline : 1 ≤ statement.line) (hhandler : registry.lookup statement.command.name = none) :
    (statement.run registry tolerance).Leaves world (.ok (some (.unhandled statement.line
      (statement.unknownCommandRemark (.ofLine statement.line))))) left := by
  have hcarried : (statement.carryOut registry).Leaves left (.ok (some _)) left :=
    leaves_carryOut_ok_iff.mpr
      (Or.inl ⟨_, hhandler, Position.lineStart_of_le hline, rfl, rfl⟩)
  have hrun := h.leaves_run hcarried
  rw [settled_some] at hrun
  exact hrun

/-- A tick reports a command that it reaches exactly if the command has no handler. -/
theorem Script.exists_isOnMissing_iff {script : Script} {name : String}
    (hlines : ∀ statement ∈ script.statements, 1 ≤ statement.line)
    (hreaches : script.ReachesCommand registry tolerance world name) :
    (∃ tick, (script.tick registry tolerance world).tick = .ok tick ∧
      ∃ d ∈ tick.diagnostics, d.IsOnMissing name) ↔ registry.lookup name = none := by
  constructor
  · rintro ⟨tick, htick, d, hd, hcode, hmessage⟩
    obtain ⟨statement, -, position, hhandler, -, rfl⟩ :=
      exists_lacksHandler_of_diagnostic htick hd hcode
    have hshown : (statement.unknownCommandRemark position).message =
        "Unknown command `" ++ statement.command.name ++ "`." := rfl
    rw [hshown] at hmessage
    obtain rfl : statement.command.name = name := by simpa using hmessage
    exact hhandler
  · intro hhandler
    obtain ⟨⟨description, hdescribe⟩, k, statement, reached, left, hfound, rfl, hpasses,
      hreached⟩ := hreaches
    have hline := hlines statement (List.mem_of_getElem? hfound)
    have hrun := leaves_runStatements_of_passesAll hfound hpasses
      (hreached.leaves_run_unhandled hline hhandler)
    obtain ⟨htick, -⟩ : (script.tick registry tolerance world).tick = _ ∧ _ :=
      tick_of_describe hdescribe
    rw [hrun.1] at htick
    exact ⟨_, htick, _, List.mem_singleton_self _, rfl, rfl⟩

end Ticks

/-! ## One answer -/

namespace Registry

variable [World σ] {registry : Registry σ}

/-- Names in lower case are found, counted and checked against alike. -/
theorem IsLowered.isCaseless (h : registry.IsLowered) (hnodup : registry.names.Nodup) :
    registry.IsCaseless where
  found name hname spelled hspelled := by
    have hlookup : registry.lookup spelled ≠ none := by
      rw [ne_eq, lookup_eq_none_iff, hspelled, h name hname]
      exact not_not_intro hname
    exact ⟨contains_iff_lookup_ne_none.mpr hlookup, Option.ne_none_iff_exists'.mp hlookup⟩
  length := by
    rw [h.map_lowercase_names, List.toFinset_card_of_nodup hnodup, length, names,
      List.length_map]
  agrees hnonempty script tolerance world name hlines hreaches := by
    obtain ⟨-, k, statement, reached, left, hfound, hname, -⟩ := id hreaches
    have hknown : (Rules.forDrone none registry.names).knownCommands = registry.names :=
      h.map_lowercase_names
    rw [Rules.exists_isOn_command_iff hlines
      ⟨statement, List.mem_of_getElem? hfound, hname⟩,
      Script.exists_isOnMissing_iff hlines hreaches, Rules.isListed_eq_false_iff, hknown,
      h.map_lowercase_names, lookup_eq_none_iff]
    exact and_iff_right hnonempty

/-- A name that is found in lower case is in lower case if no other name is the same in
lower case. -/
theorem IsCaseless.isLowered (h : registry.IsCaseless) : registry.IsLowered := by
  have hnodup : (registry.names.map lowercase).Nodup := by
    have hcard := h.length
    rw [Registry.length, ← List.length_map (·.1), ← names,
      ← List.length_map lowercase] at hcard
    exact Multiset.coe_nodup.mp (Multiset.toFinset_card_eq_card_iff_nodup.mp hcard)
  intro name hname
  obtain ⟨-, handler, hlookup⟩ := h.found name hname name rfl
  have hlowered : lowercase name ∈ registry.names := by
    by_contra hmissing
    rw [lookup_eq_none_iff.mpr hmissing] at hlookup
    cases hlookup
  exact List.inj_on_of_nodup_map hnodup hlowered hname (lowercase_lowercase name)

/-- A registry that is made from entries, and extended by calls, answers in one way about
its names exactly if the keys of the entries are in lower case. -/
theorem isCaseless_iff (entries : List (String × Handler σ)) (calls : List (Registering σ)) :
    (calls.foldl attempt (ofEntries entries)).IsCaseless ↔
      ∀ entry ∈ entries, lowercase entry.1 = entry.1 := by
  rw [← isLowered_ofEntries_iff, ← isLowered_foldl_attempt_iff calls]
  constructor
  · exact IsCaseless.isLowered
  · intro h
    exact h.isCaseless (nodup_names_foldl_attempt (nodup_names_ofEntries entries) calls)

/-- Under a key that is not in lower case no handler is found: the name is listed, so the
check is silent, but a tick reports it as unknown. -/
theorem not_isCaseless_scan :
    let registry : Registry Rig :=
      .ofEntries [("Scan", Recipe.handle ⟨true, none, none, false, ["Scanning."]⟩)]
    let script : Script := ⟨[⟨.always, ⟨"Scan", []⟩, 1⟩]⟩
    let world : Rig := ⟨"rig", [], [], ⟨[]⟩, .int 7, []⟩
    registry.names = ["Scan"] ∧ registry.contains "Scan" = false ∧
      registry.lookup "SCAN" = none ∧
      (Rules.forDrone none registry.names).check script = .ok [] ∧
      (∃ tick, (script.tick registry .thousandth world).tick = .ok tick ∧
        tick.diagnostics.map (·.message) = ["Unknown command `Scan`."]) ∧
      ¬ registry.IsCaseless := by
  intro registry script world
  have hmissing : registry.contains "Scan" = false := rfl
  refine ⟨rfl, hmissing, rfl, rfl, ⟨⟨_, .unhandled 1 _⟩, rfl, rfl⟩, ?_⟩
  intro h
  obtain ⟨hfound, -⟩ := h.found "Scan" List.mem_cons_self "Scan" rfl
  rw [hmissing] at hfound
  cases hfound

end Registry

end Autopilot
