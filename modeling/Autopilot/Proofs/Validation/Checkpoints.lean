import Autopilot.Proofs.Validation.Violations
import Mathlib.Data.List.Basic
import Mathlib.Data.List.Flatten

/-!
# The rules that a script breaks

A rule can be broken at some places of a script only: by the number of its statements, by
its first statement, by the size of a condition, and by each name that occurs in it.  The
check of a script goes through these places in a fixed order and makes one remark at each
place where a rule is broken, and no other remark.
-/

namespace Autopilot

/-! ## The places of a script -/

/-- The three sorts of names that rules may list. -/
inductive NameSort where
  | command
  | query
  | variable
deriving DecidableEq, Repr

namespace Condition

/-- The number of comparisons and queries in a condition. -/
def leafCount : Condition → Nat
  | comparison .. => 1
  | query _ => 1
  | logical left _ right => left.leafCount + right.leafCount

/-- The occurrences of queries in a condition, from left to right. -/
def queryOccurrences : Condition → List String
  | comparison .. => []
  | query name => [name]
  | logical left _ right => left.queryOccurrences ++ right.queryOccurrences

/-- The occurrences of variables in a condition, from left to right. -/
def variableOccurrences : Condition → List String
  | comparison left _ (.name right) => [left, right]
  | comparison left _ (.number _) => [left]
  | query _ => []
  | logical left _ right => left.variableOccurrences ++ right.variableOccurrences

theorem length_terms (condition : Condition) :
    condition.terms.length = condition.leafCount := by
  induction condition with
  | comparison => simp [terms, leafCount]
  | query => simp [terms, leafCount]
  | logical left connective right ihl ihr => simp [terms, leafCount, ihl, ihr]

theorem queryNames_eq (condition : Condition) :
    condition.queryNames = condition.queryOccurrences := by
  induction condition with
  | comparison => simp [queryNames, terms, queryOccurrences]
  | query => simp [queryNames, terms, queryOccurrences]
  | logical left connective right ihl ihr =>
      rw [queryOccurrences, ← ihl, ← ihr]
      simp [queryNames, terms]

theorem variableNames_eq (condition : Condition) :
    condition.variableNames = condition.variableOccurrences := by
  induction condition with
  | comparison left comparator right =>
      cases right <;> simp [variableNames, terms, variableOccurrences]
  | query => simp [variableNames, terms, variableOccurrences]
  | logical left connective right ihl ihr =>
      rw [variableOccurrences, ← ihl, ← ihr]
      simp [variableNames, terms]

end Condition

/-- A place at which a script may break a rule, with all that the rule depends on. -/
inductive Checkpoint where
  /-- The number of statements, given by the lines of all of them. -/
  | length (lines : List Int)
  /-- The first statement. -/
  | opening (kind : StatementKind) (line : Int)
  /-- The number of terms of a condition. -/
  | size (line : Int) (terms : Nat)
  /-- A name. -/
  | name (sort : NameSort) (line : Int) (name : String)
deriving DecidableEq, Repr

/-- The places of a condition: its size, then its queries, then its variables. -/
def Condition.checkpoints (line : Int) (condition : Condition) : List Checkpoint :=
  .size line condition.leafCount ::
    (condition.queryOccurrences.map (.name .query line) ++
      condition.variableOccurrences.map (.name .variable line))

/-- The places of the condition of a statement, if it has one. -/
def Statement.checkpoints (statement : Statement) : List Checkpoint :=
  match statement.trigger with
  | .condition condition => condition.checkpoints statement.line
  | _ => []

/-- The places of a script in the order of the check: the whole script, the first
statement, the conditions of the statements, and their commands. -/
def Script.checkpoints (script : Script) : List Checkpoint :=
  .length (script.statements.map (·.line)) ::
    (script.statements.head?.toList.map fun first => .opening first.kind first.line) ++
    script.statements.flatMap Statement.checkpoints ++
    script.statements.map fun statement =>
      .name .command statement.line statement.command.name

/-! ## Broken rules -/

/-- The remark on a name of a sort that is not listed. -/
def NameSort.unlisted : NameSort → Remark
  | .command => .unlistedCommand
  | .query => .unlistedQuery
  | .variable => .unlistedVariable

/-- The code of the warning on a name of a sort that is not listed. -/
def NameSort.unlistedCode : NameSort → String
  | .command => "VALIDATION_UNKNOWN_COMMAND"
  | .query => "VALIDATION_UNKNOWN_QUERY"
  | .variable => "VALIDATION_UNKNOWN_VARIABLE"

/-- The word for a sort of names. -/
def NameSort.word : NameSort → String
  | .command => "command"
  | .query => "query"
  | .variable => "variable"

namespace Rules

/-- The listed names of a sort. -/
def vocabulary (rules : Rules) : NameSort → List String
  | .command => rules.knownCommands
  | .query => rules.knownQueries
  | .variable => rules.knownVariables

/-- A rule is broken at a place, which is worth a diagnostic at the start of a line. -/
inductive Violates (rules : Rules) : Checkpoint → Diagnostic → Prop
  | tooManyStatements {lines : List Int} {limit : Nat} {position : Position}
      (hlimit : rules.maxStatements = some limit) (hless : limit < lines.length)
      (hline : (position.line : Int) = lines[limit]) (hcolumn : position.column = 1) :
    Violates rules (.length lines) {
      code := "VALIDATION_TOO_MANY_STATEMENTS"
      message := "Script has " ++ toString lines.length ++ " statements; at most " ++
        toString limit ++ " are allowed."
      position := position
      severity := .error
      hint := Option.none
      category := some "validation" }
  | orphanFallback {line : Int} {position : Position}
      (hwarn : rules.warnOrphanFallback = true)
      (hline : (position.line : Int) = line) (hcolumn : position.column = 1) :
    Violates rules (.opening .fallback line) {
      code := "VALIDATION_ORPHAN_FALLBACK"
      message := "ELSE is the first statement and always runs."
      position := position
      severity := .warning
      hint := some "Place ELSE after the IF statements it should back up."
      category := some "validation" }
  | conditionTooDeep {line : Int} {terms limit : Nat} {position : Position}
      (hlimit : rules.maxConditionTerms = some limit) (hless : limit < terms)
      (hline : (position.line : Int) = line) (hcolumn : position.column = 1) :
    Violates rules (.size line terms) {
      code := "VALIDATION_CONDITION_TOO_DEEP"
      message := "Condition combines " ++ toString terms ++ " terms; at most " ++
        toString limit ++ " are allowed."
      position := position
      severity := .error
      hint := some "Split the condition across several IF statements."
      category := some "validation" }
  | unknownName {sort : NameSort} {line : Int} {name : String} {position : Position}
      (hlisted : rules.vocabulary sort ≠ [])
      (hunknown : ∀ known ∈ rules.vocabulary sort,
        Text.lowercase known ≠ Text.lowercase name)
      (hline : (position.line : Int) = line) (hcolumn : position.column = 1) :
    Violates rules (.name sort line name) {
      code := sort.unlistedCode
      message := "Unknown " ++ sort.word ++ " `" ++ name ++ "`."
      position := position
      severity := .warning
      hint := (Text.closest? name ((rules.vocabulary sort).map Text.lowercase)
        rules.suggestionCutoff).map fun closest => "Did you mean `" ++ closest ++ "`?"
      category := some "validation" }

/-- What the check says at a place, if a rule is broken there. -/
def verdict (rules : Rules) : Checkpoint → Option Diagnostic
  | .length lines =>
    rules.maxStatements.bind fun limit => lines[limit]?.map fun line =>
      violation line .tooManyStatements
        (some ("Script has " ++ toString lines.length ++ " statements; at most " ++
          toString limit ++ " are allowed.")) Option.none
  | .opening kind line =>
    if rules.warnOrphanFallback ∧ kind = .fallback then
      some (violation line .orphanFallback Option.none Option.none)
    else Option.none
  | .size line terms =>
    rules.maxConditionTerms.bind fun limit =>
      if limit < terms then
        some (violation line .conditionTooDeep
          (some ("Condition combines " ++ toString terms ++ " terms; at most " ++
            toString limit ++ " are allowed.")) Option.none)
      else Option.none
  | .name sort line name =>
    if isListed (rules.vocabulary sort) name then Option.none
    else
      some (rules.nameViolation sort.unlisted sort.word
        ((rules.vocabulary sort).map Text.lowercase) line name)

/-! ## The check goes through the places -/

variable {rules : Rules} {script : Script} {line : Int}

theorem lengthViolations_eq : rules.lengthViolations script =
    (rules.verdict (.length (script.statements.map (·.line)))).toList := by
  rw [lengthViolations, verdict]
  cases rules.maxStatements with
  | none => rfl
  | some limit =>
      simp only [Option.bind_some, List.getElem?_map, List.length_map, Script.length]
      cases script.statements[limit]? with
      | none => rfl
      | some extra => rfl

theorem fallbackViolations_eq : rules.fallbackViolations script =
    (script.statements.head?.toList.map fun first =>
      Checkpoint.opening first.kind first.line).filterMap rules.verdict := by
  obtain ⟨statements⟩ := script
  rcases statements with _ | ⟨⟨trigger, command, line⟩, rest⟩
  · rfl
  · cases trigger with
    | fallback =>
        by_cases hwarn : rules.warnOrphanFallback = true
        · simp [fallbackViolations, verdict, hwarn, Statement.kind, Trigger.kind]
        · simp [fallbackViolations, verdict, hwarn]
    | condition => simp [fallbackViolations, verdict, Statement.kind, Trigger.kind]
    | always => simp [fallbackViolations, verdict, Statement.kind, Trigger.kind]

theorem termViolations_eq (condition : Condition) : rules.termViolations line condition =
    (rules.verdict (.size line condition.leafCount)).toList := by
  rw [termViolations, verdict, condition.length_terms]
  cases rules.maxConditionTerms with
  | none => rfl
  | some limit =>
      by_cases hless : limit < condition.leafCount
      · simp [hless]
      · simp [hless]

theorem nameViolations_eq (rules : Rules) (sort : NameSort) (line : Int)
    (names : List String) :
    rules.nameViolations sort.unlisted sort.word (rules.vocabulary sort) line names =
      (names.map (Checkpoint.name sort line)).filterMap rules.verdict := by
  induction names with
  | nil => rfl
  | cons name rest ih =>
      rw [List.map_cons, List.filterMap_cons, ← ih, nameViolations, List.filter_cons]
      cases hlisted : isListed (rules.vocabulary sort) name with
      | true => simp [verdict, hlisted, nameViolations]
      | false => simp [verdict, hlisted, nameViolations]

/-- What the check says at a place comes before what it says at the later ones. -/
theorem filterMap_verdict_cons (rules : Rules) (point : Checkpoint)
    (points : List Checkpoint) : (point :: points).filterMap rules.verdict =
      (rules.verdict point).toList ++ points.filterMap rules.verdict := by
  rw [List.filterMap_eq_flatMap_toList, List.flatMap_cons,
    ← List.filterMap_eq_flatMap_toList]

theorem conditionViolations_eq (condition : Condition) :
    rules.conditionViolations line condition =
      (condition.checkpoints line).filterMap rules.verdict := by
  have hqueries := rules.nameViolations_eq .query line condition.queryOccurrences
  have hvariables := rules.nameViolations_eq .variable line condition.variableOccurrences
  rw [conditionViolations, termViolations_eq, condition.queryNames_eq,
    condition.variableNames_eq, Condition.checkpoints, filterMap_verdict_cons,
    List.filterMap_append, ← hqueries, ← hvariables, List.append_assoc]
  rfl

theorem flatMap_conditions_eq (rules : Rules) (script : Script) :
    script.conditions.flatMap (fun entry => rules.conditionViolations entry.1 entry.2) =
      (script.statements.flatMap Statement.checkpoints).filterMap rules.verdict := by
  rw [Script.conditions, List.filterMap_eq_flatMap_toList, List.flatMap_assoc,
    List.filterMap_flatMap]
  apply List.flatMap_congr
  rintro ⟨trigger, command, line⟩ -
  cases trigger with
  | condition condition => simp [Statement.checkpoints, conditionViolations_eq]
  | fallback => rfl
  | always => rfl

theorem flatMap_commands_eq (rules : Rules) (script : Script) :
    script.commands.flatMap (fun entry => rules.commandViolations entry.1 entry.2) =
      (script.statements.map fun statement => Checkpoint.name .command statement.line
        statement.command.name).filterMap rules.verdict := by
  rw [Script.commands, List.flatMap_map, List.filterMap_map,
    List.filterMap_eq_flatMap_toList]
  apply List.flatMap_congr
  intro statement _
  have hname := rules.nameViolations_eq .command statement.line [statement.command.name]
  rw [List.map_singleton, filterMap_verdict_cons, List.filterMap_nil,
    List.append_nil] at hname
  exact hname

/-- The remarks on a script are those at its places, in their order. -/
theorem violations_eq : rules.violations script =
    script.checkpoints.filterMap rules.verdict := by
  rw [violations, lengthViolations_eq, fallbackViolations_eq, flatMap_conditions_eq,
    flatMap_commands_eq, Script.checkpoints]
  simp only [List.cons_append, filterMap_verdict_cons, List.filterMap_append,
    List.append_assoc]

/-- Only what is said of a name is said under the code of an unlisted name. -/
theorem code_ne_of_verdict {point : Checkpoint} {d : Diagnostic}
    (hd : rules.verdict point = some d)
    (hpoint : ∀ sort line name, point ≠ .name sort line name) (sort : NameSort) :
    d.code ≠ sort.unlistedCode := by
  cases point with
  | length lines =>
      simp only [verdict, Option.bind_eq_some_iff, Option.map_eq_some_iff] at hd
      obtain ⟨limit, -, line, -, rfl⟩ := hd
      have hcode : Remark.tooManyStatements.code ≠ sort.unlistedCode := by
        cases sort <;> decide
      exact hcode
  | opening kind line =>
      simp only [verdict, Option.ite_none_right_eq_some] at hd
      obtain rfl := Option.some.inj hd.2
      have hcode : Remark.orphanFallback.code ≠ sort.unlistedCode := by
        cases sort <;> decide
      exact hcode
  | size line terms =>
      simp only [verdict, Option.bind_eq_some_iff, Option.ite_none_right_eq_some] at hd
      obtain ⟨limit, -, -, hd⟩ := hd
      obtain rfl := Option.some.inj hd
      have hcode : Remark.conditionTooDeep.code ≠ sort.unlistedCode := by
        cases sort <;> decide
      exact hcode
  | name sort' line name => exact absurd rfl (hpoint sort' line name)

/-! ## What is said where a rule is broken -/

end Rules

/-- The lines at a place. -/
def Checkpoint.lines : Checkpoint → List Int
  | length lines => lines
  | opening _ line => [line]
  | size line _ => [line]
  | name _ line _ => [line]

theorem Condition.lines_of_mem_checkpoints {condition : Condition} {line : Int}
    {point : Checkpoint} (h : point ∈ condition.checkpoints line) : point.lines = [line] := by
  rw [checkpoints, List.mem_cons, List.mem_append] at h
  rcases h with rfl | h | h
  · rfl
  · obtain ⟨name, -, rfl⟩ := List.mem_map.mp h
    rfl
  · obtain ⟨name, -, rfl⟩ := List.mem_map.mp h
    rfl

theorem Statement.lines_of_mem_checkpoints {statement : Statement} {point : Checkpoint}
    (h : point ∈ statement.checkpoints) : point.lines = [statement.line] := by
  rw [checkpoints] at h
  split at h
  · exact Condition.lines_of_mem_checkpoints h
  · cases h

/-- The lines at the places of a script are lines of statements. -/
theorem Script.exists_line_of_mem_checkpoints {script : Script} {point : Checkpoint}
    {line : Int} (hpoint : point ∈ script.checkpoints) (hline : line ∈ point.lines) :
    ∃ statement ∈ script.statements, statement.line = line := by
  rw [checkpoints, List.cons_append, List.cons_append, List.mem_cons, List.mem_append,
    List.mem_append] at hpoint
  rcases hpoint with rfl | (hpoint | hpoint) | hpoint
  · exact List.mem_map.mp hline
  · obtain ⟨first, hfirst, rfl⟩ := List.mem_map.mp hpoint
    have hmem := List.mem_of_mem_head? (Option.mem_toList.mp hfirst)
    exact ⟨first, hmem, (List.mem_singleton.mp hline).symm⟩
  · obtain ⟨statement, hmem, hpoint⟩ := List.mem_flatMap.mp hpoint
    rw [Statement.lines_of_mem_checkpoints hpoint, List.mem_singleton] at hline
    exact ⟨statement, hmem, hline.symm⟩
  · obtain ⟨statement, hmem, rfl⟩ := List.mem_map.mp hpoint
    exact ⟨statement, hmem, (List.mem_singleton.mp hline).symm⟩

/-- A position is the start of a line exactly if it is its first column. -/
theorem Position.eq_ofLine_iff {position : Position} {line : Int} (h : 1 ≤ line) :
    position = ofLine line ↔ (position.line : Int) = line ∧ position.column = 1 := by
  have hline : (line - 1).toNat + 1 = line.toNat := by omega
  rw [Position.ext_iff]
  simp only [ofLine, start, hline]
  omega

namespace Rules

variable {rules : Rules} {point : Checkpoint} {d : Diagnostic}

theorem verdict_length_eq_some_iff {lines : List Int} (h : ∀ line ∈ lines, 1 ≤ line) :
    rules.verdict (.length lines) = some d ↔ rules.Violates (.length lines) d := by
  simp only [verdict, Option.bind_eq_some_iff, Option.map_eq_some_iff]
  constructor
  · rintro ⟨limit, hlimit, line, hextra, rfl⟩
    obtain ⟨hless, rfl⟩ := List.getElem?_eq_some_iff.mp hextra
    obtain ⟨hline, hcolumn⟩ := (Position.eq_ofLine_iff (h _ (List.getElem_mem hless))).mp rfl
    exact .tooManyStatements hlimit hless hline hcolumn
  · intro hviolates
    cases hviolates with
    | tooManyStatements hlimit hless hline hcolumn =>
        have hmem := List.getElem_mem hless
        obtain rfl := (Position.eq_ofLine_iff (h _ hmem)).mpr ⟨hline, hcolumn⟩
        exact ⟨_, hlimit, _, List.getElem?_eq_getElem hless, rfl⟩

theorem verdict_opening_eq_some_iff {kind : StatementKind} {line : Int} (h : 1 ≤ line) :
    rules.verdict (.opening kind line) = some d ↔ rules.Violates (.opening kind line) d := by
  simp only [verdict, Option.ite_none_right_eq_some]
  constructor
  · rintro ⟨⟨hwarn, rfl⟩, hd⟩
    obtain rfl := Option.some.inj hd
    obtain ⟨hline, hcolumn⟩ := (Position.eq_ofLine_iff h).mp rfl
    exact .orphanFallback hwarn hline hcolumn
  · intro hviolates
    cases hviolates with
    | orphanFallback hwarn hline hcolumn =>
        obtain rfl := (Position.eq_ofLine_iff h).mpr ⟨hline, hcolumn⟩
        exact ⟨⟨hwarn, rfl⟩, rfl⟩

theorem verdict_size_eq_some_iff {terms : Nat} {line : Int} (h : 1 ≤ line) :
    rules.verdict (.size line terms) = some d ↔ rules.Violates (.size line terms) d := by
  simp only [verdict, Option.bind_eq_some_iff, Option.ite_none_right_eq_some]
  constructor
  · rintro ⟨limit, hlimit, hless, hd⟩
    obtain rfl := Option.some.inj hd
    obtain ⟨hline, hcolumn⟩ := (Position.eq_ofLine_iff h).mp rfl
    exact .conditionTooDeep hlimit hless hline hcolumn
  · intro hviolates
    cases hviolates with
    | conditionTooDeep hlimit hless hline hcolumn =>
        obtain rfl := (Position.eq_ofLine_iff h).mpr ⟨hline, hcolumn⟩
        exact ⟨_, hlimit, hless, rfl⟩

/-- A name is not listed if some names of its sort are, but it is none of them in any
letter case. -/
theorem isListed_vocabulary_eq_false_iff {sort : NameSort} {name : String} :
    isListed (rules.vocabulary sort) name = false ↔ rules.vocabulary sort ≠ [] ∧
      ∀ known ∈ rules.vocabulary sort, Text.lowercase known ≠ Text.lowercase name := by
  rw [isListed_eq_false_iff, List.mem_map]
  simp only [not_exists, not_and, ne_eq]

/-- The remark on a name in full: only its code and a word depend on the sort. -/
theorem nameViolation_unlisted (rules : Rules) (sort : NameSort) (line : Int)
    (name : String) :
    rules.nameViolation sort.unlisted sort.word
      ((rules.vocabulary sort).map Text.lowercase) line name = {
        code := sort.unlistedCode
        message := "Unknown " ++ sort.word ++ " `" ++ name ++ "`."
        position := .ofLine line
        severity := .warning
        hint := (Text.closest? name ((rules.vocabulary sort).map Text.lowercase)
          rules.suggestionCutoff).map fun closest => "Did you mean `" ++ closest ++ "`?"
        category := some "validation" } := by
  cases sort <;> simp [nameViolation, violation, Remark.placed, NameSort.unlisted,
    NameSort.unlistedCode, Remark.unlistedCommand, Remark.unlistedQuery,
    Remark.unlistedVariable, Remark.caution]

theorem verdict_name_eq_some_iff {sort : NameSort} {line : Int} {name : String}
    (h : 1 ≤ line) : rules.verdict (.name sort line name) = some d ↔
      rules.Violates (.name sort line name) d := by
  simp only [verdict, Option.ite_none_left_eq_some, Bool.not_eq_true,
    isListed_vocabulary_eq_false_iff, nameViolation_unlisted]
  constructor
  · rintro ⟨⟨hlisted, hunknown⟩, hd⟩
    obtain rfl := Option.some.inj hd
    obtain ⟨hline, hcolumn⟩ := (Position.eq_ofLine_iff h).mp rfl
    exact .unknownName hlisted hunknown hline hcolumn
  · intro hviolates
    cases hviolates with
    | unknownName hlisted hunknown hline hcolumn =>
        obtain rfl := (Position.eq_ofLine_iff h).mpr ⟨hline, hcolumn⟩
        exact ⟨⟨hlisted, hunknown⟩, rfl⟩

/-- The check says of a place exactly what there is to say if a rule is broken there. -/
theorem verdict_eq_some_iff (h : ∀ line ∈ point.lines, 1 ≤ line) :
    rules.verdict point = some d ↔ rules.Violates point d := by
  cases point with
  | length lines => exact verdict_length_eq_some_iff h
  | opening kind line => exact verdict_opening_eq_some_iff (List.forall_mem_singleton.mp h)
  | size line terms => exact verdict_size_eq_some_iff (List.forall_mem_singleton.mp h)
  | name sort line name => exact verdict_name_eq_some_iff (List.forall_mem_singleton.mp h)

/-- The check of a script reports exactly the violations.  It goes through the places of
the script in their order and says at each one what there is to say if a rule is broken
there, and nothing if none is. -/
theorem check_eq_verdicts (rules : Rules) {script : Script}
    (h : ∀ statement ∈ script.statements, 1 ≤ statement.line) :
    rules.check script = .ok (script.checkpoints.filterMap rules.verdict) ∧
      ∀ point ∈ script.checkpoints, ∀ d,
        rules.verdict point = some d ↔ rules.Violates point d := by
  constructor
  · rw [check_of_lines h, violations_eq]
  · intro point hpoint d
    apply verdict_eq_some_iff
    intro line hline
    obtain ⟨statement, hstatement, rfl⟩ :=
      Script.exists_line_of_mem_checkpoints hpoint hline
    exact h statement hstatement

/-- A script that breaks a rule of each kind. -/
theorem check_eq_verdicts_of_hover :
    let comparison := Condition.comparison "speed" .less (.name "LIMIT")
    let conditional := Trigger.condition (.logical comparison .conj (.query "ready"))
    let script : Script := ⟨[⟨.fallback, ⟨"hover", []⟩, 1⟩, ⟨conditional, ⟨"land", []⟩, 3⟩]⟩
    let rules : Rules := { Rules.none with
      maxStatements := some 1, maxConditionTerms := some 1
      terms_pos := fun _ hlimit => Nat.le_of_eq (Option.some.inj hlimit)
      knownCommands := ["Land"], knownQueries := ["armed"], knownVariables := ["Speed"] }
    (∀ statement ∈ script.statements, 1 ≤ statement.line) ∧
      (rules.check script = .ok (script.checkpoints.filterMap rules.verdict) ∧
        ∀ point ∈ script.checkpoints, ∀ d,
          rules.verdict point = some d ↔ rules.Violates point d) ∧
      (script.checkpoints.filterMap rules.verdict).map
          (fun d => (d.code, d.position.line)) =
        [("VALIDATION_TOO_MANY_STATEMENTS", 3), ("VALIDATION_ORPHAN_FALLBACK", 1),
          ("VALIDATION_CONDITION_TOO_DEEP", 3), ("VALIDATION_UNKNOWN_QUERY", 3),
          ("VALIDATION_UNKNOWN_VARIABLE", 3), ("VALIDATION_UNKNOWN_COMMAND", 1)] := by
  intro comparison conditional script rules
  have hlines : ∀ statement ∈ script.statements, 1 ≤ statement.line := by
    simp [script]
  exact ⟨hlines, check_eq_verdicts rules hlines, by decide +kernel⟩

end Rules

end Autopilot
