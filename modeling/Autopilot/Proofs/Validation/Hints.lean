import Autopilot.Proofs.Text.Closest
import Autopilot.Proofs.Validation.Occurrences

/-!
# Following hints

Each warning on a name that is not listed is about one occurrence of the name.  If it
comes with a suggestion, the suggestion is a listed name in lower case.  Writing it at
this occurrence takes away this warning, and nothing else in the remarks on the script
changes, however often the name occurs.
-/

namespace Autopilot

/-- A remark of a check, with the occurrence of the name that it is about, if any. -/
structure Finding where
  occurrence : Option Occurrence
  diagnostic : Diagnostic

/-- A list in which one element only fails a test loses this element. -/
theorem filter_eq_eraseIdx {α : Type} {p : α → Bool} {xs : List α} {n : Nat} {x : α}
    (hn : xs[n]? = some x) (hx : p x = false)
    (hothers : xs.Pairwise fun a b => p a = true ∨ p b = true) :
    xs.filter p = xs.eraseIdx n := by
  induction xs generalizing n with
  | nil => cases hn
  | cons first rest ih =>
      obtain ⟨hfirst, hrest⟩ := List.pairwise_cons.mp hothers
      cases n with
      | zero =>
          obtain rfl : first = x := Option.some.inj hn
          have hall : ∀ other ∈ rest, p other = true := by
            intro other hother
            have := hfirst other hother
            rw [hx] at this
            exact this.resolve_left Bool.false_ne_true
          rw [List.filter_cons_of_neg (by simp [hx]), List.eraseIdx_cons_zero,
            List.filter_eq_self.mpr hall]
      | succ n =>
          have hkept : p first = true := by
            have := hfirst x (List.mem_of_getElem? hn)
            rw [hx] at this
            exact this.resolve_right Bool.false_ne_true
          rw [List.filter_cons_of_pos hkept, List.eraseIdx_cons_succ, ih hn hrest]

theorem map_eraseIdx {α β : Type} (f : α → β) (xs : List α) (n : Nat) :
    (xs.eraseIdx n).map f = (xs.map f).eraseIdx n := by
  rw [List.eraseIdx_eq_take_drop_succ, List.eraseIdx_eq_take_drop_succ, List.map_append,
    List.map_take, List.map_drop]

theorem NameSort.unlistedCode_injective {sort sort' : NameSort}
    (h : sort.unlistedCode = sort'.unlistedCode) : sort = sort' := by
  revert h
  cases sort <;> cases sort' <;> decide

namespace Rules

/-- What the check says at a place, with the occurrence that the place belongs to. -/
def finding (rules : Rules) (place : Place) : Option Finding :=
  (rules.verdict place.point).map fun d => ⟨place.occurrence, d⟩

/-- The remarks on a script in their order, each with what it is about. -/
def findings (rules : Rules) (script : Script) : List Finding :=
  script.places.filterMap rules.finding

variable {rules : Rules} {script : Script} {occurrence : Occurrence} {finding : Finding}

/-- The check gives the findings. -/
theorem check_eq_findings (rules : Rules)
    (h : ∀ statement ∈ script.statements, 1 ≤ statement.line) :
    rules.check script = .ok ((rules.findings script).map (·.diagnostic)) := by
  have hplaces : (rules.findings script).map (·.diagnostic) =
      script.checkpoints.filterMap rules.verdict := by
    rw [findings, ← script.map_point_places, List.filterMap_map, List.map_filterMap]
    apply List.filterMap_congr
    intro place _
    rw [Rules.finding, Option.map_map]
    exact Option.map_id'
  rw [hplaces, (check_eq_verdicts rules h).1]

/-- The warning on a name that is not listed, and no other remark, is about an occurrence
of a name. -/
theorem finding_cases (h : finding ∈ rules.findings script) :
    (finding.occurrence = Option.none ∧
        ∀ sort : NameSort, finding.diagnostic.code ≠ sort.unlistedCode) ∨
      ∃ occurrence statement name, finding.occurrence = some occurrence ∧
        script.statements[occurrence.statement]? = some statement ∧
        script.nameAt? occurrence = some name ∧
        isListed (rules.vocabulary occurrence.sort) name = false ∧
        finding.diagnostic = rules.nameViolation occurrence.sort.unlisted
          occurrence.sort.word ((rules.vocabulary occurrence.sort).map Text.lowercase)
          statement.line name := by
  obtain ⟨place, hplace, hfinding⟩ := List.mem_filterMap.mp h
  obtain ⟨d, hd, rfl⟩ := Option.map_eq_some_iff.mp hfinding
  rcases Script.place_cases hplace with ⟨hnone, hpoint⟩ |
    ⟨occurrence, statement, name, rfl, hstatement, hname⟩
  · exact Or.inl ⟨hnone, code_ne_of_verdict hd hpoint⟩
  · refine Or.inr ⟨occurrence, statement, name, rfl, hstatement, hname, ?_⟩
    rw [verdict] at hd
    split at hd
    · cases hd
    · rename_i hlisted
      exact ⟨Bool.eq_false_iff.mpr hlisted, (Option.some.inj hd).symm⟩

/-- A listed name that is written at an occurrence takes away what was said there. -/
theorem findings_replace (script : Script) {new : String}
    (hlisted : isListed (rules.vocabulary occurrence.sort) new = true) :
    rules.findings (script.replace occurrence new) =
      (rules.findings script).filter fun finding =>
        finding.occurrence ≠ some occurrence := by
  rw [findings, Script.places_replace, List.filterMap_map, findings, List.filter_filterMap]
  apply List.filterMap_congr
  intro place hplace
  rw [Function.comp_apply, Rules.finding, Rules.finding]
  by_cases hoccurrence : place.occurrence = some occurrence
  · have hnew : rules.verdict (place.replace occurrence new).point = Option.none := by
      rcases Script.place_cases hplace with ⟨hnone, -⟩ | ⟨other, statement, name, rfl, -⟩
      · rw [hnone] at hoccurrence
        cases hoccurrence
      · obtain rfl : other = occurrence := Option.some.inj hoccurrence
        rw [Place.replace, if_pos rfl, Checkpoint.named, verdict, if_pos hlisted]
    rw [hnew]
    cases rules.verdict place.point with
    | none => rfl
    | some d => simp [Option.filter_some, hoccurrence]
  · rw [Place.replace, if_neg hoccurrence]
    cases rules.verdict place.point with
    | none => rfl
    | some d => simp [Option.filter_some, hoccurrence]

/-- Of the findings one at most is about an occurrence. -/
theorem pairwise_findings (rules : Rules) (script : Script) (occurrence : Occurrence) :
    (rules.findings script).Pairwise fun finding other =>
      decide (finding.occurrence ≠ some occurrence) = true ∨
        decide (other.occurrence ≠ some occurrence) = true := by
  rw [findings, List.pairwise_filterMap]
  apply script.pairwise_places.imp
  intro place other hapart finding hfinding finding' hfinding'
  obtain ⟨d, -, rfl⟩ := Option.map_eq_some_iff.mp hfinding
  obtain ⟨d', -, rfl⟩ := Option.map_eq_some_iff.mp hfinding'
  by_cases hoccurrence : place.occurrence = some occurrence
  · exact Or.inr (decide_eq_true (hapart occurrence hoccurrence))
  · exact Or.inl (decide_eq_true hoccurrence)

/-- A suggestion is a listed name in lower case, and in ASCII it is listed itself. -/
theorem isListed_of_closest? {known : List String} {name suggestion : String}
    {cutoff : Number} (hascii : ∀ text ∈ known, ∀ c ∈ text.toList, c.toNat < 0x80)
    (h : Text.closest? name (known.map Text.lowercase) cutoff = some suggestion) :
    (∃ text ∈ known, Text.lowercase text = suggestion) ∧
      isListed known suggestion = true := by
  obtain ⟨text, htext, rfl⟩ := List.mem_map.mp (Text.mem_of_closest? h)
  refine ⟨⟨text, htext, rfl⟩, ?_⟩
  have hlower : Text.lowercase (Text.lowercase text) ∈ known.map Text.lowercase := by
    rw [Text.lowercase_lowercase_of_ascii (hascii text htext)]
    exact List.mem_map_of_mem htext
  simp only [isListed, Bool.or_eq_true, List.contains_iff_mem]
  exact Or.inr hlower

/-- Following a hint takes away the warning that it came with, and nothing else.  The
warning is about one occurrence of a name, and its hint suggests a listed name of the same
sort, in lower case.  With the suggestion written at this occurrence, and all other names
as they were, the script is checked with the same remarks but for this warning. -/
theorem check_replace_of_hint (hlines : ∀ statement ∈ script.statements, 1 ≤ statement.line)
    (hascii : ∀ sort, ∀ known ∈ rules.vocabulary sort, ∀ c ∈ known.toList, c.toNat < 0x80) :
    rules.check script = .ok ((rules.findings script).map (·.diagnostic)) ∧
      ∀ n finding, (rules.findings script)[n]? = some finding →
        ∀ sort suggestion, finding.diagnostic.code = sort.unlistedCode →
          finding.diagnostic.hint = some ("Did you mean `" ++ suggestion ++ "`?") →
          ∃ occurrence statement name, finding.occurrence = some occurrence ∧
            occurrence.sort = sort ∧
            script.statements[occurrence.statement]? = some statement ∧
            finding.diagnostic.position = .ofLine statement.line ∧
            script.nameAt? occurrence = some name ∧
            finding.diagnostic.message =
              "Unknown " ++ sort.word ++ " `" ++ name ++ "`." ∧
            (∃ known ∈ rules.vocabulary sort, Text.lowercase known = suggestion) ∧
            (∀ other, (script.replace occurrence suggestion).nameAt? other =
              if other = occurrence then some suggestion else script.nameAt? other) ∧
            rules.check (script.replace occurrence suggestion) =
              .ok (((rules.findings script).map (·.diagnostic)).eraseIdx n) := by
  refine ⟨check_eq_findings rules hlines, ?_⟩
  intro n finding hfinding sort suggestion hcode hhint
  rcases finding_cases (List.mem_of_getElem? hfinding) with ⟨-, hother⟩ |
    ⟨occurrence, statement, name, hoccurrence, hstatement, hname, -, hdiagnostic⟩
  · exact absurd hcode (hother sort)
  · rw [nameViolation_unlisted] at hdiagnostic
    rw [hdiagnostic] at hcode hhint
    obtain rfl : occurrence.sort = sort := NameSort.unlistedCode_injective hcode
    obtain ⟨closest, hclosest, htext⟩ := Option.map_eq_some_iff.mp hhint
    obtain rfl : closest = suggestion := by simpa using htext
    obtain ⟨hknown, hlisted⟩ := isListed_of_closest? (hascii occurrence.sort) hclosest
    have hlines' : ∀ statement ∈ (script.replace occurrence closest).statements,
        1 ≤ statement.line := by
      intro other hother
      have hline := List.mem_map_of_mem (f := (·.line)) hother
      rw [Script.map_line_replace] at hline
      obtain ⟨same, hsame, hline⟩ := List.mem_map.mp hline
      rw [← hline]
      exact hlines same hsame
    refine ⟨occurrence, statement, name, hoccurrence, rfl, hstatement, by rw [hdiagnostic],
      hname, by rw [hdiagnostic], hknown, Script.nameAt?_replace hname closest, ?_⟩
    rw [check_eq_findings rules hlines', findings_replace script hlisted,
      filter_eq_eraseIdx hfinding (by simp [hoccurrence])
        (pairwise_findings rules script occurrence), map_eraseIdx]

theorem forall_ascii_of_all {texts : List String}
    (h : (texts.all fun text => text.toList.all fun c => decide (c.toNat < 0x80)) = true) :
    ∀ text ∈ texts, ∀ c ∈ text.toList, c.toNat < 0x80 := by
  intro text htext c hc
  have hall := List.all_eq_true.mp h text htext
  exact of_decide_eq_true (List.all_eq_true.mp hall c hc)

/-- Of one slip of the pen made twice on a line the second one is put right. -/
theorem check_replace_of_hint_speeed :
    let script (name : String) : Script :=
      ⟨[⟨.condition (.logical (.comparison "speeed" .greater (.number "3")) .conj
          (.comparison name .less (.name "limit"))), ⟨"hovr", []⟩, 1⟩]⟩
    let rules : Rules := { Rules.none with
      knownCommands := ["Hover"], knownVariables := ["Speed", "Limit"] }
    (rules.findings (script "speeed")).map
        (fun finding => (finding.occurrence, finding.diagnostic.hint)) =
      [(some ⟨0, .variable, 0⟩, some "Did you mean `speed`?"),
        (some ⟨0, .variable, 1⟩, some "Did you mean `speed`?"),
        (some ⟨0, .command, 0⟩, some "Did you mean `hover`?")] ∧
      (script "speeed").replace ⟨0, .variable, 1⟩ "speed" = script "speed" ∧
      rules.check (script "speed") =
        .ok (((rules.findings (script "speeed")).map (·.diagnostic)).eraseIdx 1) := by
  intro script rules
  have hlines : ∀ statement ∈ (script "speeed").statements, 1 ≤ statement.line := by
    simp [script]
  have hascii : ∀ sort, ∀ known ∈ rules.vocabulary sort, ∀ c ∈ known.toList,
      c.toNat < 0x80 := by
    intro sort
    apply forall_ascii_of_all
    cases sort <;> decide +kernel
  have hfindings : (rules.findings (script "speeed")).map
      (fun finding => (finding.occurrence, finding.diagnostic.hint)) =
        [(some ⟨0, .variable, 0⟩, some "Did you mean `speed`?"),
          (some ⟨0, .variable, 1⟩, some "Did you mean `speed`?"),
          (some ⟨0, .command, 0⟩, some "Did you mean `hover`?")] := by
    decide +kernel
  have hsecond : (rules.findings (script "speeed"))[1]?.map
      (fun finding => (finding.occurrence, finding.diagnostic.code,
        finding.diagnostic.hint)) =
      some (some ⟨0, .variable, 1⟩, NameSort.variable.unlistedCode,
        some ("Did you mean `" ++ "speed" ++ "`?")) := by
    decide +kernel
  obtain ⟨finding, hfinding, hsame⟩ := Option.map_eq_some_iff.mp hsecond
  obtain ⟨hoccurrence, hcodes⟩ := Prod.mk.inj hsame
  obtain ⟨hcode, hhint⟩ := Prod.mk.inj hcodes
  obtain ⟨_, hfollowed⟩ := check_replace_of_hint hlines hascii
  obtain ⟨occurrence, _, _, hsome, -, -, -, -, -, -, -, hcheck⟩ :=
    hfollowed 1 finding hfinding .variable "speed" hcode hhint
  obtain rfl : ⟨0, .variable, 1⟩ = occurrence := Option.some.inj (hoccurrence.symm.trans hsome)
  exact ⟨hfindings, by decide +kernel, hcheck⟩

end Rules

end Autopilot
