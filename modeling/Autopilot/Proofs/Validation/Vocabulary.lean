import Autopilot.Proofs.Validation.Hints

/-!
# Extending a vocabulary

Names that are added to the listed ones take away the warnings on these names, in any
letter case, and change nothing else in the remarks on a script but hints.  Names of one
sort do not matter for those of another.  It matters which names are listed, and neither
in which order they were added nor how often.
-/

namespace Autopilot

/-- A diagnostic without its hint. -/
def Diagnostic.withoutHint (d : Diagnostic) : Diagnostic :=
  { d with hint := none }

/-- A diagnostic is the warning on a name of a sort. -/
def Diagnostic.IsOn (sort : NameSort) (name : String) (d : Diagnostic) : Prop :=
  d.code = sort.unlistedCode ∧
    d.message = "Unknown " ++ sort.word ++ " `" ++ name ++ "`."

/-- A diagnostic is the warning on a name which is, in some letter case, one of some
names of its sort. -/
def Diagnostic.IsOnAny (names : NameSort → List String) (d : Diagnostic) : Prop :=
  ∃ sort name, d.IsOn sort name ∧
    Text.lowercase name ∈ (names sort).map Text.lowercase

namespace Rules

/-- Rules with more names of each sort. -/
def extended (rules : Rules) (names : NameSort → List String) : Rules :=
  rules.withVocabulary (names .command) (names .query) (names .variable)

variable {rules rules' : Rules} {names : NameSort → List String} {script : Script}

theorem vocabulary_extended (rules : Rules) (names : NameSort → List String)
    (sort : NameSort) : (rules.extended names).vocabulary sort =
      rules.vocabulary sort ++ (names sort).map Text.lowercase := by
  cases sort <;> rfl

/-! ## The warnings that are taken away -/

/-- In ASCII a name is lowered no further when it is compared than when it is added. -/
theorem map_lowercase_vocabulary_extended {sort : NameSort}
    (hascii : ∀ text ∈ names sort, ∀ c ∈ text.toList, c.toNat < 0x80) :
    ((rules.extended names).vocabulary sort).map Text.lowercase =
      (rules.vocabulary sort).map Text.lowercase ++ (names sort).map Text.lowercase := by
  have hlower : ∀ text ∈ names sort,
      (Text.lowercase ∘ Text.lowercase) text = Text.lowercase text := by
    intro text htext
    exact Text.lowercase_lowercase_of_ascii (hascii text htext)
  rw [vocabulary_extended, List.map_append, List.map_map, List.map_congr_left hlower]

theorem isListed_extended {sort : NameSort} (hlisted : rules.vocabulary sort ≠ [])
    (hascii : ∀ text ∈ names sort, ∀ c ∈ text.toList, c.toNat < 0x80) (name : String) :
    isListed ((rules.extended names).vocabulary sort) name = true ↔
      isListed (rules.vocabulary sort) name = true ∨
        Text.lowercase name ∈ (names sort).map Text.lowercase := by
  have hlisted' : (rules.extended names).vocabulary sort ≠ [] := by
    rw [vocabulary_extended]
    exact List.append_ne_nil_of_left_ne_nil hlisted _
  rw [isListed, isListed, map_lowercase_vocabulary_extended hascii]
  simp [hlisted, hlisted']

theorem isOnAny_nameViolation_iff (rules : Rules) (names : NameSort → List String)
    (sort : NameSort) (line : Int) (name : String) :
    (rules.nameViolation sort.unlisted sort.word
      ((rules.vocabulary sort).map Text.lowercase) line name).IsOnAny names ↔
        Text.lowercase name ∈ (names sort).map Text.lowercase := by
  rw [nameViolation_unlisted]
  constructor
  · rintro ⟨sort', name', ⟨hcode, hmessage⟩, hmem⟩
    obtain rfl := NameSort.unlistedCode_injective hcode
    obtain rfl : name = name' := by simpa using hmessage
    exact hmem
  · intro hmem
    exact ⟨sort, name, ⟨rfl, rfl⟩, hmem⟩

open Classical in
/-- What is said at a place under more names, hints apart. -/
theorem verdict_extended (point : Checkpoint) (hlisted : ∀ sort, rules.vocabulary sort ≠ [])
    (hascii : ∀ sort, ∀ text ∈ names sort, ∀ c ∈ text.toList, c.toNat < 0x80) :
    ((rules.extended names).verdict point).map Diagnostic.withoutHint =
      ((rules.verdict point).filter fun d => ¬ d.IsOnAny names).map
        Diagnostic.withoutHint := by
  have hother (hsame : (rules.extended names).verdict point = rules.verdict point)
      (hpoint : ∀ sort line name, point ≠ .name sort line name) :
      ((rules.extended names).verdict point).map Diagnostic.withoutHint =
        ((rules.verdict point).filter fun d => ¬ d.IsOnAny names).map
          Diagnostic.withoutHint := by
    rw [hsame]
    cases hd : rules.verdict point with
    | none => rfl
    | some d =>
        have hkept : ¬ d.IsOnAny names := by
          rintro ⟨sort, name, ⟨hcode, -⟩, -⟩
          exact code_ne_of_verdict hd hpoint sort hcode
        rw [Option.filter_some, if_pos (decide_eq_true hkept)]
  cases point with
  | name sort line name =>
      have hiff := isListed_extended (hlisted sort) (hascii sort) name
      have hon := rules.isOnAny_nameViolation_iff names sort line name
      rw [verdict, verdict]
      by_cases hadded : Text.lowercase name ∈ (names sort).map Text.lowercase
      · rw [if_pos (hiff.mpr (Or.inr hadded))]
        split
        · rfl
        · rw [Option.filter_some, if_neg (by simpa using hon.mpr hadded)]
      · by_cases hold : isListed (rules.vocabulary sort) name = true
        · rw [if_pos (hiff.mpr (Or.inl hold)), if_pos hold]
          rfl
        · rw [if_neg fun hnew => (hiff.mp hnew).elim hold hadded, if_neg hold,
            Option.filter_some, if_pos (by simpa using fun h => hadded (hon.mp h))]
          simp only [Option.map_some, nameViolation_unlisted]
          rfl
  | length lines => exact hother rfl (by rintro _ _ _ ⟨⟩)
  | opening kind line => exact hother rfl (by rintro _ _ _ ⟨⟩)
  | size line terms => exact hother rfl (by rintro _ _ _ ⟨⟩)

/-! ## Only the listed names matter -/

/-- Rules that differ at most in the order and the repetition of the names they list. -/
structure SameNames (rules rules' : Rules) : Prop where
  maxStatements : rules.maxStatements = rules'.maxStatements
  maxConditionTerms : rules.maxConditionTerms = rules'.maxConditionTerms
  suggestionCutoff : rules.suggestionCutoff = rules'.suggestionCutoff
  warnOrphanFallback : rules.warnOrphanFallback = rules'.warnOrphanFallback
  vocabulary : ∀ sort text, text ∈ rules.vocabulary sort ↔ text ∈ rules'.vocabulary sort

namespace SameNames

theorem mem_map_lowercase (h : rules.SameNames rules') (sort : NameSort) (text : String) :
    text ∈ (rules.vocabulary sort).map Text.lowercase ↔
      text ∈ (rules'.vocabulary sort).map Text.lowercase := by
  simp only [List.mem_map, h.vocabulary sort]

theorem isListed (h : rules.SameNames rules') (sort : NameSort) (name : String) :
    Rules.isListed (rules.vocabulary sort) name =
      Rules.isListed (rules'.vocabulary sort) name := by
  have hempty : rules.vocabulary sort = [] ↔ rules'.vocabulary sort = [] := by
    simp only [List.eq_nil_iff_forall_not_mem, h.vocabulary sort]
  rw [Bool.eq_iff_iff, Rules.isListed, Rules.isListed]
  simp only [Bool.or_eq_true, List.isEmpty_iff, List.contains_iff_mem, hempty,
    h.mem_map_lowercase sort]

theorem verdict (h : rules.SameNames rules') (point : Checkpoint) :
    rules.verdict point = rules'.verdict point := by
  cases point with
  | length lines => rw [Rules.verdict, Rules.verdict, h.maxStatements]
  | opening kind line => rw [Rules.verdict, Rules.verdict, h.warnOrphanFallback]
  | size line terms => rw [Rules.verdict, Rules.verdict, h.maxConditionTerms]
  | name sort line name =>
      rw [Rules.verdict, Rules.verdict, h.isListed, nameViolation_unlisted,
        nameViolation_unlisted, Text.closest?_congr (h.mem_map_lowercase sort),
        h.suggestionCutoff]

theorem check (h : rules.SameNames rules')
    (hlines : ∀ statement ∈ script.statements, 1 ≤ statement.line) :
    rules.check script = rules'.check script := by
  rw [(check_eq_verdicts rules hlines).1, (check_eq_verdicts rules' hlines).1,
    funext h.verdict]

end SameNames

/-- Rules extended twice list the names they would list if extended once. -/
theorem sameNames_extended_extended (rules : Rules) {more all : NameSort → List String}
    (h : ∀ sort text, text ∈ all sort ↔ text ∈ names sort ∨ text ∈ more sort) :
    ((rules.extended names).extended more).SameNames (rules.extended all) := by
  refine ⟨rfl, rfl, rfl, rfl, ?_⟩
  intro sort text
  simp only [vocabulary_extended, List.mem_append, List.mem_map, h sort, or_and_right,
    exists_or, or_assoc]

open Classical in
/-- Extending a vocabulary only takes away the matching warnings.  If names of all sorts are
listed, a script is checked under more names with the same remarks in the same order, but
for their hints, less the warnings on names that are among the new ones in some letter
case.  Two extensions, one after the other in either order, are one extension. -/
theorem check_extended (hlines : ∀ statement ∈ script.statements, 1 ≤ statement.line)
    (hlisted : ∀ sort, rules.vocabulary sort ≠ [])
    (hascii : ∀ sort, ∀ text ∈ names sort, ∀ c ∈ text.toList, c.toNat < 0x80) :
    (∃ ds ds', rules.check script = .ok ds ∧ (rules.extended names).check script = .ok ds' ∧
        ds'.map Diagnostic.withoutHint =
          (ds.filter fun d => ¬ d.IsOnAny names).map Diagnostic.withoutHint) ∧
      ∀ more all : NameSort → List String,
        (∀ sort text, text ∈ all sort ↔ text ∈ names sort ∨ text ∈ more sort) →
        ((rules.extended names).extended more).check script =
            (rules.extended all).check script ∧
          ((rules.extended more).extended names).check script =
            (rules.extended all).check script := by
  constructor
  · refine ⟨_, _, (check_eq_verdicts rules hlines).1,
      (check_eq_verdicts (rules.extended names) hlines).1, ?_⟩
    rw [List.filter_filterMap, List.map_filterMap, List.map_filterMap]
    apply List.filterMap_congr
    intro point _
    exact verdict_extended point hlisted hascii
  · intro more all hall
    constructor
    · exact (sameNames_extended_extended rules hall).check hlines
    · apply (sameNames_extended_extended rules _).check hlines
      intro sort text
      rw [hall sort text, or_comm]

open Classical in
/-- A limit that becomes known is no longer warned of, while a slip of the pen still is. -/
theorem check_extended_limit :
    let script : Script := ⟨[⟨.condition (.comparison "speeed" .less (.name "Limit")),
      ⟨"hover", []⟩, 1⟩]⟩
    let rules : Rules := { Rules.none with
      knownCommands := ["land"], knownQueries := ["armed"], knownVariables := ["Speed"] }
    let names (sort : NameSort) := if sort = .variable then ["LIMIT"] else []
    (∃ ds ds', rules.check script = .ok ds ∧ (rules.extended names).check script = .ok ds' ∧
        ds'.map Diagnostic.withoutHint =
          (ds.filter fun d => ¬ d.IsOnAny names).map Diagnostic.withoutHint ∧
        ds.map (·.message) = ["Unknown variable `speeed`.", "Unknown variable `Limit`.",
          "Unknown command `hover`."] ∧
        ds'.map (·.message) = ["Unknown variable `speeed`.", "Unknown command `hover`."]) ∧
      ((rules.extended names).extended names).check script =
        (rules.extended names).check script := by
  intro script rules names
  have hlines : ∀ statement ∈ script.statements, 1 ≤ statement.line := by
    simp [script]
  have hlisted : ∀ sort, rules.vocabulary sort ≠ [] := by
    intro sort
    cases sort <;> decide
  have hascii : ∀ sort, ∀ text ∈ names sort, ∀ c ∈ text.toList, c.toNat < 0x80 := by
    intro sort
    apply forall_ascii_of_all
    cases sort <;> decide +kernel
  obtain ⟨⟨ds, ds', hds, hds', hsame⟩, htwice⟩ := check_extended hlines hlisted hascii
  have hmessages : (rules.check script).map (·.map (·.message)) =
      .ok ["Unknown variable `speeed`.", "Unknown variable `Limit`.",
        "Unknown command `hover`."] := by
    decide +kernel
  have hmessages' : ((rules.extended names).check script).map (·.map (·.message)) =
      .ok ["Unknown variable `speeed`.", "Unknown command `hover`."] := by
    decide +kernel
  rw [hds] at hmessages
  rw [hds'] at hmessages'
  exact ⟨⟨ds, ds', hds, hds', hsame, Except.ok.inj hmessages, Except.ok.inj hmessages'⟩,
    (htwice names names (by simp)).1⟩

end Rules

end Autopilot
