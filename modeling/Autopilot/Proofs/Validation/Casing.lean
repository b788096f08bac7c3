import Autopilot.Proofs.Tick.Casing
import Autopilot.Proofs.Validation.Checkpoints

/-!
# Checks and letter case

The check of a script does not look at the letter case of names either: scripts that
differ in it break the same rules at the same places, and the same names are suggested
for unknown ones.  So a check and a tick never disagree about how a name is spelled.
-/

namespace Autopilot

/-- Two places of scripts differ in the letter case of a name. -/
inductive Checkpoint.SameBesideCase : Checkpoint → Checkpoint → Prop
  | same (point : Checkpoint) : SameBesideCase point point
  | name (sort : NameSort) (line : Int) {name name' : String}
      (hname : SameInLowercase name name') :
      SameBesideCase (.name sort line name) (.name sort line name')

/-- What a diagnostic says apart from its wording: its code, its place and its hint. -/
def Diagnostic.gist (d : Diagnostic) : String × Position × Option String :=
  (d.code, d.position, d.hint)

/-! ## The places of scripts that differ in letter case -/

theorem forall₂_checkpoint_name (sort : NameSort) (line : Int) {names names' : List String}
    (h : List.Forall₂ SameInLowercase names names') :
    List.Forall₂ Checkpoint.SameBesideCase (names.map (.name sort line))
      (names'.map (.name sort line)) := by
  rw [List.forall₂_map_left_iff, List.forall₂_map_right_iff]
  exact h.imp fun _ _ hname => .name sort line hname

namespace Condition.SameBesideCase

variable {condition condition' : Condition}

theorem leafCount (h : condition.SameBesideCase condition') :
    condition.leafCount = condition'.leafCount := by
  induction h with
  | comparison => rfl
  | query => rfl
  | logical hleft connective hright ihl ihr =>
      rw [Condition.leafCount, Condition.leafCount, ihl, ihr]

theorem queryOccurrences (h : condition.SameBesideCase condition') :
    List.Forall₂ SameInLowercase condition.queryOccurrences
      condition'.queryOccurrences := by
  induction h with
  | comparison => exact .nil
  | query hname => exact .cons hname .nil
  | logical hleft connective hright ihl ihr => exact List.rel_append ihl ihr

theorem variableOccurrences (h : condition.SameBesideCase condition') :
    List.Forall₂ SameInLowercase condition.variableOccurrences
      condition'.variableOccurrences := by
  induction h with
  | comparison hleft comparator hright =>
      cases hright with
      | name hword => exact .cons hleft (.cons hword .nil)
      | number raw => exact .cons hleft .nil
  | query => exact .nil
  | logical hleft connective hright ihl ihr => exact List.rel_append ihl ihr

theorem checkpoints (h : condition.SameBesideCase condition') (line : Int) :
    List.Forall₂ Checkpoint.SameBesideCase (condition.checkpoints line)
      (condition'.checkpoints line) := by
  have hqueries := forall₂_checkpoint_name .query line h.queryOccurrences
  have hvariables := forall₂_checkpoint_name .variable line h.variableOccurrences
  rw [Condition.checkpoints, Condition.checkpoints, h.leafCount]
  exact .cons (.same _) (List.rel_append hqueries hvariables)

end Condition.SameBesideCase

theorem Statement.SameBesideCase.checkpoints {statement statement' : Statement}
    (h : statement.SameBesideCase statement') :
    List.Forall₂ Checkpoint.SameBesideCase statement.checkpoints
      statement'.checkpoints := by
  have htrigger := h.trigger
  rw [Statement.checkpoints, Statement.checkpoints, h.line]
  generalize statement.trigger = trigger at htrigger ⊢
  generalize statement'.trigger = trigger' at htrigger ⊢
  cases htrigger with
  | condition htested => exact htested.checkpoints _
  | fallback => exact .nil
  | always => exact .nil

namespace Script.SameBesideCase

variable {script script' : Script}

theorem lines (h : script.SameBesideCase script') :
    script.statements.map (·.line) = script'.statements.map (·.line) := by
  rw [← List.forall₂_eq_eq_eq, List.forall₂_map_left_iff, List.forall₂_map_right_iff]
  exact h.imp fun _ _ hsame => hsame.line

theorem openings (h : script.SameBesideCase script') :
    (script.statements.head?.toList.map fun first =>
        Checkpoint.opening first.kind first.line) =
      script'.statements.head?.toList.map fun first =>
        Checkpoint.opening first.kind first.line := by
  rw [Script.SameBesideCase] at h
  generalize script.statements = statements at h ⊢
  generalize script'.statements = statements' at h ⊢
  cases h with
  | nil => rfl
  | cons hfirst hrest => simp [hfirst.kind, hfirst.line]

theorem checkpoints (h : script.SameBesideCase script') :
    List.Forall₂ Checkpoint.SameBesideCase script.checkpoints script'.checkpoints := by
  rw [Script.checkpoints, Script.checkpoints, h.lines, h.openings]
  have hwhole (points : List Checkpoint) :
      List.Forall₂ Checkpoint.SameBesideCase points points :=
    List.forall₂_same.mpr fun point _ => .same point
  have hconditions : List.Forall₂ Checkpoint.SameBesideCase
      (script.statements.flatMap Statement.checkpoints)
      (script'.statements.flatMap Statement.checkpoints) :=
    List.rel_flatMap h fun _ _ hsame => hsame.checkpoints
  have hcommands : List.Forall₂ Checkpoint.SameBesideCase
      (script.statements.map fun statement =>
        .name .command statement.line statement.command.name)
      (script'.statements.map fun statement =>
        .name .command statement.line statement.command.name) := by
    rw [List.forall₂_map_left_iff, List.forall₂_map_right_iff]
    apply h.imp
    intro statement statement' hsame
    rw [hsame.line]
    exact .name .command _ hsame.command.name
  exact List.rel_append (List.rel_append (hwhole _) hconditions) hcommands

end Script.SameBesideCase

/-! ## What the check says -/

theorem isListed_of_sameInLowercase (known : List String) {name name' : String}
    (h : SameInLowercase name name') :
    Rules.isListed known name = Rules.isListed known name' := by
  rw [Rules.isListed, Rules.isListed, h]

theorem closest?_of_sameInLowercase (candidates : List String) (cutoff : Number)
    {name name' : String} (h : SameInLowercase name name') :
    Text.closest? name candidates cutoff = Text.closest? name' candidates cutoff := by
  rw [Text.closest?, Text.closest?, h]

theorem Checkpoint.SameBesideCase.gist_verdict {point point' : Checkpoint}
    (h : point.SameBesideCase point') (rules : Rules) :
    (rules.verdict point).map Diagnostic.gist =
      (rules.verdict point').map Diagnostic.gist := by
  cases h with
  | same => rfl
  | name sort line hname =>
      rw [Rules.verdict, Rules.verdict, isListed_of_sameInLowercase _ hname]
      split
      · rfl
      · have hclosest := closest?_of_sameInLowercase
          ((rules.vocabulary sort).map Text.lowercase) rules.suggestionCutoff hname
        simp only [Option.map_some, Rules.nameViolation, hclosest]
        rfl

theorem filterMap_eq_of_forall₂ {α β : Type} {related : α → α → Prop} {f : α → Option β}
    {xs ys : List α} (h : List.Forall₂ related xs ys)
    (hf : ∀ x y, related x y → f x = f y) : xs.filterMap f = ys.filterMap f := by
  induction h with
  | nil => rfl
  | cons hfirst _ ih => rw [List.filterMap_cons, List.filterMap_cons, hf _ _ hfirst, ih]

/-- Scripts that differ in letter case are checked with the same result, but for the
wording of what is said about names. -/
theorem Script.check_sameBesideCase {script script' : Script}
    (h : script.SameBesideCase script') (rules : Rules) :
    ∃ ds ds', rules.check script = .ok ds ∧ rules.check script' = .ok ds' ∧
      ds.map Diagnostic.gist = ds'.map Diagnostic.gist := by
  have hlines : ∀ statement ∈ script.statements, 1 ≤ statement.line :=
    ((List.forall₂_and_left _ _).mp (h.imp fun _ _ hsame => ⟨hsame.line_pos, hsame⟩)).1
  have hflip : List.Forall₂ (flip Statement.SameBesideCase) script'.statements
      script.statements := List.Forall₂.flip h
  have hlines' : ∀ statement ∈ script'.statements, 1 ≤ statement.line :=
    ((List.forall₂_and_left _ _).mp
      (hflip.imp fun _ _ hsame => ⟨hsame.line_pos', hsame⟩)).1
  refine ⟨_, _, Rules.check_of_lines hlines, Rules.check_of_lines hlines', ?_⟩
  rw [Rules.violations_eq, Rules.violations_eq, List.map_filterMap, List.map_filterMap]
  apply filterMap_eq_of_forall₂ h.checkpoints
  intro point point' hsame
  exact hsame.gist_verdict rules

/-- The letter case of names never matters.  Of two scripts that differ in nothing else,
a tick of the drone is decided by the same statement in the same way and leaves the same
drone, and every check gives diagnostics with the same codes, places and hints. -/
theorem Script.tick_check_sameBesideCase {script script' : Script}
    (h : script.SameBesideCase script') (tolerance : Tolerance) (drone : Drone)
    (rules : Rules) :
    let outcome := script.tick .builtIn tolerance drone
    let outcome' := script'.tick .builtIn tolerance drone
    outcome.world = outcome'.world ∧
      ((∃ fault, outcome.tick = .error fault ∧ outcome'.tick = .error fault) ∨
        ∃ tick tick', outcome.tick = .ok tick ∧ outcome'.tick = .ok tick' ∧
          SamePlace .builtIn tolerance script.statements script'.statements drone tick tick'
            outcome.world ∧
          tick.ending.SameBesideCase tick'.ending) ∧
      ∃ ds ds', rules.check script = .ok ds ∧ rules.check script' = .ok ds' ∧
        ds.map Diagnostic.gist = ds'.map Diagnostic.gist := by
  intro outcome outcome'
  obtain ⟨hleft, htick⟩ :=
    tick_sameBesideCase h Drone.ignoresCase Registry.ignoresCase_builtIn drone
  exact ⟨hleft, htick, check_sameBesideCase h rules⟩

/-- A mining script in two spellings. -/
theorem Script.tick_check_sameBesideCase_mining :
    let script : Script :=
      ⟨[⟨.condition (.query "storm_active"), ⟨"goto_outpost", []⟩, 1⟩,
        ⟨.fallback, ⟨"mine_nearest", [.name "Iron"]⟩, 2⟩]⟩
    let script' : Script :=
      ⟨[⟨.condition (.query "Storm_Active"), ⟨"GOTO_outpost", []⟩, 1⟩,
        ⟨.fallback, ⟨"Mine_Nearest", [.name "Iron"]⟩, 2⟩]⟩
    let outcome := script.tick .builtIn .thousandth Drone.fresh
    let outcome' := script'.tick .builtIn .thousandth Drone.fresh
    script.SameBesideCase script' ∧ outcome.world = outcome'.world ∧
      ∃ tick tick', outcome.tick = .ok tick ∧ outcome'.tick = .ok tick' ∧
        SamePlace .builtIn .thousandth script.statements script'.statements Drone.fresh
          tick tick' outcome.world ∧
        tick.ending.SameBesideCase tick'.ending := by
  intro script script' outcome outcome'
  have hquery : SameInLowercase "storm_active" "Storm_Active" := by decide +kernel
  have hgoto : SameInLowercase "goto_outpost" "GOTO_outpost" := by decide +kernel
  have hmine : SameInLowercase "mine_nearest" "Mine_Nearest" := by decide +kernel
  have hsame : script.SameBesideCase script' :=
    .cons ⟨.condition (.query hquery), ⟨hgoto, rfl⟩, rfl, Int.le_refl 1⟩
      (.cons ⟨.fallback, ⟨hmine, rfl⟩, rfl, by decide⟩ .nil)
  obtain ⟨hleft, ⟨fault, hfault, -⟩ | hticks, -⟩ :=
    Script.tick_check_sameBesideCase hsame .thousandth .fresh .none
  · have hok : outcome.tick.isOk = true := by decide +kernel
    rw [hfault] at hok
    cases hok
  · exact ⟨hsame, hleft, hticks⟩

end Autopilot
