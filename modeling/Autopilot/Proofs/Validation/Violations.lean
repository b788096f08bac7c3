import Autopilot.Validation.Basic

/-!
# The violations of a script

Checking a script gives remarks unless one of them stands on a line below one.  If all
lines are at least one, the remarks are found without regard to faults: those on the
length and on the first statement, those on each condition, and those on each command.
-/

namespace Autopilot

/-- The first column of a line.  A line below one is taken for the first line. -/
def Position.ofLine (line : Int) : Position :=
  { start with line := (line - 1).toNat + 1, line_pos := Nat.le_add_left 1 _ }

theorem Position.lineStart_of_le {line : Int} (h : 1 ≤ line) :
    lineStart line = .ok (ofLine line) := by
  have hline : (line - 1).toNat + 1 = line.toNat := by omega
  simp only [lineStart, ofInts?, ofLine, hline]
  rw [dif_pos ⟨h, Int.le_refl 1⟩]
  rfl

theorem Position.eq_ofLine_of_lineStart {line : Int} {position : Position}
    (h : lineStart line = .ok position) : position = ofLine line := by
  have hline : 1 ≤ line := lineStart_eq_ok_iff.mp ⟨position, h⟩
  rw [lineStart_of_le hline] at h
  exact (Except.ok.inj h).symm

/-- A traversal that meets no fault maps the list. -/
theorem mapM_eq_ok_map {α β : Type} {f : α → Except Fault β} {g : α → β} {xs : List α}
    (h : ∀ x ∈ xs, f x = .ok (g x)) : xs.mapM f = .ok (xs.map g) := by
  induction xs with
  | nil => rfl
  | cons x rest ih =>
      obtain ⟨hfirst, hrest⟩ := List.forall_mem_cons.mp h
      rw [List.mapM_cons, hfirst, ih hrest]
      rfl

namespace Rules

variable {rules : Rules} {script : Script} {line : Int}

/-- A remark at the start of a line. -/
def violation (line : Int) (remark : Remark) (message hint : Option String) : Diagnostic :=
  remark.placed (.ofLine line) message hint

theorem remarkOn_of_le (h : 1 ≤ line) (remark : Remark) (message hint : Option String) :
    remarkOn line remark message hint = .ok (violation line remark message hint) := by
  rw [remarkOn, Position.lineStart_of_le h]
  rfl

/-! ## The script as a whole -/

/-- The remark on a script with too many statements. -/
def lengthViolations (rules : Rules) (script : Script) : List Diagnostic :=
  match rules.maxStatements with
  | Option.none => []
  | some limit =>
    script.statements[limit]?.toList.map fun extra =>
      violation extra.line .tooManyStatements
        (some ("Script has " ++ toString script.length ++ " statements; at most " ++
          toString limit ++ " are allowed.")) Option.none

theorem checkLength_of_lines (h : ∀ statement ∈ script.statements, 1 ≤ statement.line) :
    rules.checkLength script = .ok (rules.lengthViolations script) := by
  rw [checkLength, lengthViolations]
  cases rules.maxStatements with
  | none => rfl
  | some limit =>
      dsimp only
      by_cases hmore : limit < script.length
      · -- The statement that is asked for is there.
        obtain ⟨extra, hextra⟩ : ∃ extra, script.statements[limit]? = some extra :=
          ⟨_, List.getElem?_eq_getElem hmore⟩
        have hline := h extra (List.mem_of_getElem? hextra)
        rw [if_pos hmore, hextra]
        simp only [remarkOn_of_le hline]
        rfl
      · have hnone : script.statements[limit]? = Option.none :=
          List.getElem?_eq_none (Nat.le_of_not_lt hmore)
        rw [if_neg hmore, hnone]
        rfl

/-- The remark on a fallback before any other statement. -/
def fallbackViolations (rules : Rules) (script : Script) : List Diagnostic :=
  match script.statements with
  | ⟨.fallback, _, line⟩ :: _ =>
    if rules.warnOrphanFallback then
      [violation line .orphanFallback Option.none Option.none]
    else []
  | _ => []

theorem checkFallback_of_lines (h : ∀ statement ∈ script.statements, 1 ≤ statement.line) :
    rules.checkFallback script = .ok (rules.fallbackViolations script) := by
  obtain ⟨statements⟩ := script
  cases statements with
  | nil => rfl
  | cons first rest =>
      obtain ⟨trigger, command, line⟩ := first
      cases trigger with
      | fallback =>
          have hline : 1 ≤ line := (List.forall_mem_cons.mp h).1
          simp only [checkFallback, fallbackViolations, remarkOn_of_le hline]
          split
          · rfl
          · rfl
      | _ => rfl

/-! ## Conditions and commands -/

/-- The remark on a condition with too many terms. -/
def termViolations (rules : Rules) (line : Int) (condition : Condition) :
    List Diagnostic :=
  match rules.maxConditionTerms with
  | Option.none => []
  | some limit =>
    if limit < condition.terms.length then
      [violation line .conditionTooDeep
        (some ("Condition combines " ++ toString condition.terms.length ++
          " terms; at most " ++ toString limit ++ " are allowed.")) Option.none]
    else []

theorem checkTerms_of_le (h : 1 ≤ line) (condition : Condition) :
    rules.checkTerms line condition = .ok (rules.termViolations line condition) := by
  simp only [checkTerms, termViolations]
  cases rules.maxConditionTerms with
  | none => rfl
  | some limit =>
      dsimp only
      split
      · simp only [remarkOn_of_le h]
        rfl
      · rfl

/-- The remark on a name that is not known. -/
def nameViolation (rules : Rules) (remark : Remark) (noun : String) (known : List String)
    (line : Int) (name : String) : Diagnostic :=
  violation line remark (some ("Unknown " ++ noun ++ " `" ++ name ++ "`."))
    ((Text.closest? name known rules.suggestionCutoff).map fun closest =>
      "Did you mean `" ++ closest ++ "`?")

/-- The cutoff of rules is one that a search for suggestions accepts. -/
theorem suggest_suggestionCutoff (rules : Rules) (name : String) (known : List String) :
    Text.suggest name known rules.suggestionCutoff =
      .ok (Text.closest? name known rules.suggestionCutoff) := by
  rw [Text.suggest, if_pos rules.cutoff_share]

theorem unknownName_of_le (h : 1 ≤ line) (rules : Rules) (remark : Remark)
    (noun : String) (known : List String) (name : String) :
    rules.unknownName remark noun known line name =
      .ok (rules.nameViolation remark noun known line name) := by
  rw [unknownName, rules.suggest_suggestionCutoff]
  exact remarkOn_of_le h ..

/-- Whether a name is known in some letter case, or no names are known at all. -/
def isListed (known : List String) (name : String) : Bool :=
  known.isEmpty || (known.map Text.lowercase).contains (Text.lowercase name)

theorem isListed_eq_false_iff {known : List String} {name : String} :
    isListed known name = false ↔
      known ≠ [] ∧ Text.lowercase name ∉ known.map Text.lowercase := by
  simp [isListed]

/-- The remarks on those of some names that are not known. -/
def nameViolations (rules : Rules) (remark : Remark) (noun : String) (known : List String)
    (line : Int) (names : List String) : List Diagnostic :=
  (names.filter fun name => !isListed known name).map
    (rules.nameViolation remark noun (known.map Text.lowercase) line)

theorem checkNames_of_le (h : 1 ≤ line) (remark : Remark) (noun : String)
    (known names : List String) :
    rules.checkNames remark noun known line names =
      .ok (rules.nameViolations remark noun known line names) := by
  rw [checkNames, nameViolations]
  by_cases hknown : known.isEmpty = true
  · simp [isListed, hknown]
  · rw [if_neg hknown]
    simp only [isListed, Bool.eq_false_iff.mpr hknown, Bool.false_or]
    apply mapM_eq_ok_map
    intro name _
    exact unknownName_of_le h ..

/-- The remarks on a condition. -/
def conditionViolations (rules : Rules) (line : Int) (condition : Condition) :
    List Diagnostic :=
  rules.termViolations line condition ++
    rules.nameViolations .unlistedQuery "query" rules.knownQueries line
      condition.queryNames ++
    rules.nameViolations .unlistedVariable "variable" rules.knownVariables line
      condition.variableNames

theorem checkCondition_of_le (h : 1 ≤ line) (condition : Condition) :
    rules.checkCondition line condition = .ok (rules.conditionViolations line condition) := by
  rw [checkCondition, checkTerms_of_le h, checkNames_of_le h, checkNames_of_le h]
  rfl

/-- The remarks on the name of a command. -/
def commandViolations (rules : Rules) (line : Int) (command : Command) : List Diagnostic :=
  rules.nameViolations .unlistedCommand "command" rules.knownCommands line [command.name]

theorem checkCommand_of_le (h : 1 ≤ line) (command : Command) :
    rules.checkCommand line command = .ok (rules.commandViolations line command) :=
  checkNames_of_le h ..

/-! ## All remarks -/

/-- All remarks on a script, in their order. -/
def violations (rules : Rules) (script : Script) : List Diagnostic :=
  rules.lengthViolations script ++ rules.fallbackViolations script ++
    script.conditions.flatMap (fun entry => rules.conditionViolations entry.1 entry.2) ++
    script.commands.flatMap (fun entry => rules.commandViolations entry.1 entry.2)

theorem mem_conditions_iff {condition : Condition} :
    (line, condition) ∈ script.conditions ↔
      ∃ statement ∈ script.statements,
        statement.trigger = .condition condition ∧ statement.line = line := by
  rw [Script.conditions, List.mem_filterMap]
  constructor
  · rintro ⟨statement, hstatement, hentry⟩
    split at hentry
    · rename_i htrigger
      obtain ⟨rfl, rfl⟩ := Prod.mk.inj (Option.some.inj hentry)
      exact ⟨statement, hstatement, htrigger, rfl⟩
    · cases hentry
  · rintro ⟨statement, hstatement, htrigger, rfl⟩
    exact ⟨statement, hstatement, by rw [htrigger]⟩

theorem mem_nameViolations {remark : Remark} {noun name : String}
    {known names : List String} (hname : name ∈ names)
    (hlisted : isListed known name = false) :
    rules.nameViolation remark noun (known.map Text.lowercase) line name ∈
      rules.nameViolations remark noun known line names := by
  apply List.mem_map_of_mem
  rw [List.mem_filter, hlisted]
  exact ⟨hname, rfl⟩

theorem mem_violations_of_condition {statement : Statement} {condition : Condition}
    {d : Diagnostic} (hstatement : statement ∈ script.statements)
    (htrigger : statement.trigger = .condition condition)
    (hd : d ∈ rules.conditionViolations statement.line condition) :
    d ∈ rules.violations script := by
  apply List.mem_append_left
  apply List.mem_append_right
  have hentry := mem_conditions_iff.mpr ⟨statement, hstatement, htrigger, rfl⟩
  exact List.mem_flatMap.mpr ⟨_, hentry, hd⟩

theorem mem_violations_of_command {statement : Statement} {d : Diagnostic}
    (hstatement : statement ∈ script.statements)
    (hd : d ∈ rules.commandViolations statement.line statement.command) :
    d ∈ rules.violations script := by
  apply List.mem_append_right
  exact List.mem_flatMap.mpr ⟨_, List.mem_map_of_mem hstatement, hd⟩

/-- A script whose lines are all at least one is checked without a fault. -/
theorem check_of_lines (h : ∀ statement ∈ script.statements, 1 ≤ statement.line) :
    rules.check script = .ok (rules.violations script) := by
  rw [check, checkLength_of_lines h, checkFallback_of_lines h,
    mapM_eq_ok_map (g := fun entry => rules.conditionViolations entry.1 entry.2),
    mapM_eq_ok_map (g := fun entry => rules.commandViolations entry.1 entry.2)]
  · rfl
  · intro entry hentry
    obtain ⟨statement, hstatement, rfl⟩ := List.mem_map.mp hentry
    exact checkCommand_of_le (h statement hstatement) statement.command
  · rintro ⟨line, condition⟩ hentry
    obtain ⟨statement, hstatement, -, rfl⟩ := mem_conditions_iff.mp hentry
    exact checkCondition_of_le (h statement hstatement) condition

end Rules

end Autopilot
