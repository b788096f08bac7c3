import Autopilot.Proofs.Diagnostic.Producers
import Autopilot.Proofs.Source.Reuse

/-!
# What is reported on a text

The check of a text reports what was said in reading it and in checking its script, and a
tick of a text reports what was said in reading it and in the tick.  Nothing of it is
hidden by a report, and nothing is added.
-/

namespace Autopilot

open Diagnostic

namespace Reading

variable {reading : Reading} {text : String} {later : List Diagnostic} {stage : String}

/-- Whether a diagnostic was made by the lexer, by the parser, or later. -/
def Says (reading : Reading) (later : List Diagnostic) (d : Diagnostic) : Prop :=
  d ∈ reading.lexerDiagnostics ∨ d ∈ reading.parserDiagnostics ∨ d ∈ later

/-- What is said on a text comes from the lexer, from the parser or from a later stage. -/
theorem Says.exists_isMadeIn {d : Diagnostic} (hd : reading.Says later d)
    (h : ofText text = .ok reading) (hlater : ∀ d ∈ later, d.IsMadeIn stage) :
    ∃ origin ∈ ["lexer", "parser", stage], d.IsMadeIn origin := by
  obtain ⟨hlexer, hparser⟩ := isMadeIn_of_ofText h
  rcases hd with hd | hd | hd
  · exact ⟨"lexer", by simp, hlexer d hd⟩
  · exact ⟨"parser", by simp, hparser d hd⟩
  · exact ⟨stage, by simp, hlater d hd⟩

/-- A report on a text that was read and on what a later stage says has all of it. -/
theorem mem_merged_iff (h : ofText text = .ok reading)
    (hlater : ∀ d ∈ later, d.IsMadeIn stage) (d : Diagnostic) :
    d ∈ merged (reading.diagnostics ++ later) ↔ reading.Says later d := by
  have hunion : ∀ d, d ∈ reading.diagnostics ++ later ↔ reading.Says later d := by
    intro d
    rw [diagnostics, List.mem_append, List.mem_append, or_assoc, Says]
  rw [mem_merged_of_isMadeIn, hunion]
  intro d hd
  obtain ⟨origin, -, hmade⟩ := ((hunion d).mp hd).exists_isMadeIn h hlater
  exact ⟨origin, hmade⟩

end Reading

theorem Diagnostic.anyError_iff {ds : List Diagnostic} :
    anyError ds = true ↔ ∃ d ∈ ds, d.severity = .error := by
  simp [anyError, isError]

namespace Source

variable {fresh : Source} {text : String} {rules : Option Rules}

/-- A call is about a text that was read with rules: it reads the text anew, or it is given
the source that is held from before, and then it has no rules of its own and its text is
not looked at. -/
inductive IsAsked (text : String) (rules : Option Rules) (fresh : Source) :
    Option Source → String → Option Rules → Prop
  | anew : IsAsked text rules fresh none text rules
  | again (held : Source) (other : String) (remembers : fresh.Remembers held) :
    IsAsked text rules fresh (some held) other none

theorem reading_of_ofText (h : ofText text rules = .ok fresh) :
    Reading.ofText text = .ok fresh.reading := by
  cases hread : Reading.ofText text with
  | error fault => simp [ofText, hread, bind, Except.bind] at h
  | ok reading =>
      simp only [ofText, hread, bind, Except.bind] at h
      rw [← Except.ok.inj h]

theorem isFresh_of_ofText (h : ofText text rules = .ok fresh) : fresh.IsFresh := by
  obtain ⟨source, hsource, hfresh⟩ := exists_ofText text rules
  rw [Except.ok.inj (h.symm.trans hsource)]
  exact hfresh

namespace IsAsked

variable {held : Option Source} {other : String} {given : Option Rules}

theorem study_eq (h : IsAsked text rules fresh held other given)
    (hread : ofText text rules = .ok fresh) :
    study held other given = .ok fresh.checkReport := by
  have hfresh := isFresh_of_ofText hread
  cases h with
  | anew => exact hfresh.study_eq hread
  | again held other remembers => exact remembers.study_eq hfresh other

theorem exists_resolve (h : IsAsked text rules fresh held other given)
    (hread : ofText text rules = .ok fresh) :
    ∃ source, resolve held other given = .ok source ∧ fresh.Remembers source := by
  cases h with
  | anew => exact ⟨fresh, (resolve_none text rules).trans hread, .unasked⟩
  | again held other remembers => exact ⟨held, rfl, remembers⟩

end IsAsked

/-- A tick of a text is one of its script, with a report on the reading and the tick. -/
theorem runTick_eq_ok {σ : Type} [World σ] {held : Option Source} {other : String}
    {given : Option Rules} {registry : Registry σ} {tolerance : Tolerance} {world : σ}
    {ticked : TickReport} (h : IsAsked text rules fresh held other given)
    (hread : ofText text rules = .ok fresh)
    (hticked : (runTick held other given registry tolerance world).report = .ok ticked) :
    (fresh.script.tick registry tolerance world).tick = .ok ticked.tick ∧
      ticked.diagnostics =
        merged (fresh.reading.diagnostics ++ ticked.tick.diagnostics) := by
  obtain ⟨source, hresolve, hremembers⟩ := h.exists_resolve hread
  have hreading : source.reading = fresh.reading := by
    rw [hremembers.eq_with]
  simp only [runTick, hresolve, script, hreading] at hticked ⊢
  cases htick : (fresh.reading.script.tick registry tolerance world).tick with
  | error fault =>
      rw [htick] at hticked
      cases hticked
  | ok tick =>
      rw [htick] at hticked
      obtain rfl := Except.ok.inj hticked
      exact ⟨rfl, rfl⟩

/-- What a check and a tick of a text report: of the four stages those that took part, with
nothing left out and nothing added. -/
structure ReportsAll (reading : Reading) (remarks : List Diagnostic) (checked : CheckReport)
    (ticked : TickReport) : Prop where
  check : ∀ d, d ∈ checked.diagnostics ↔ reading.Says remarks d
  tick : ∀ d, d ∈ ticked.diagnostics ↔ reading.Says ticked.tick.diagnostics d
  hasErrors : checked.hasErrors = true ↔ ∃ d, reading.Says remarks d ∧ d.severity = .error
  ofTick : ∀ d, d ∈ ticked.diagnostics ∧ d ∉ checked.diagnostics ↔
    d ∈ ticked.tick.diagnostics

/-- Merging diagnostics hides nothing.  Of any diagnostics that say the same the first one
is reported, in the order of positions, codes and first occurrence.  In the check and in a
tick of a text, whether it is read anew or held from before, no diagnostic of a stage says
the same as another one of another severity or category.  So the reports have exactly the
diagnostics of the stages that took part, there is an error in the report of the check
exactly if some stage made one, and what the tick reports beyond the check is its own. -/
theorem reportsAll_merged :
    (∀ reported ds, IsReportOn reported ds ↔ reported = merged ds) ∧
    ∀ {σ : Type} [World σ] (registry : Registry σ) (tolerance : Tolerance) (world : σ)
      {text : String} {rules : Option Rules} {fresh : Source}
      {held held' : Option Source} {other other' : String} {given given' : Option Rules}
      {checked : CheckReport} {ticked : TickReport},
      ofText text rules = .ok fresh →
      IsAsked text rules fresh held other given →
      IsAsked text rules fresh held' other' given' →
      study held other given = .ok checked →
      (runTick held' other' given' registry tolerance world).report = .ok ticked →
      ∃ remarks, fresh.rules.check fresh.script = .ok remarks ∧
        (fresh.script.tick registry tolerance world).tick = .ok ticked.tick ∧
        ReportsAll fresh.reading remarks checked ticked := by
  refine ⟨fun _ _ => isReportOn_iff, ?_⟩
  intro σ _ registry tolerance world text rules fresh held held' other other' given given'
    checked ticked hread hcheck htick hchecked hticked
  have hreading := reading_of_ofText hread
  have hlines : ∀ statement ∈ fresh.script.statements, 1 ≤ statement.line := by
    intro statement hstatement
    exact ((isFresh_of_ofText hread).read statement hstatement).line_pos
  obtain rfl := Except.ok.inj ((hcheck.study_eq hread).symm.trans hchecked)
  obtain ⟨htick, hdiagnostics⟩ := runTick_eq_ok htick hread hticked
  have hmade := Script.isMadeIn_of_tick htick
  have hremarks := Rules.isMadeIn_violations fresh.rules fresh.script
  have check := Reading.mem_merged_iff hreading hremarks
  have tick := Reading.mem_merged_iff hreading hmade
  rw [← hdiagnostics] at tick
  refine ⟨_, Rules.check_of_lines hlines, htick, check, tick, ?_, ?_⟩
  · rw [checkReport, anyError_iff]
    exact exists_congr fun d => and_congr_left' (check d)
  · intro d
    rw [tick]
    constructor
    · rintro ⟨hd | hd | hd, hnot⟩
      · exact absurd ((check d).mpr (Or.inl hd)) hnot
      · exact absurd ((check d).mpr (Or.inr (Or.inl hd))) hnot
      · exact hd
    · intro hd
      refine ⟨Or.inr (Or.inr hd), ?_⟩
      -- A diagnostic of the tick is of another stage than those of the check.
      intro hreported
      obtain ⟨origin, horigin, hmade'⟩ :=
        ((check d).mp hreported).exists_isMadeIn hreading hremarks
      rw [hmade'.unique (hmade d hd)] at horigin
      exact absurd horigin (by decide)

/-- A text with a stray character that asks for an unknown query, checked and then run for
a tick with the source that was held. -/
theorem reportsAll_merged_of_mystery :
    ∃ fresh checked ticked, ofText "IF mystery THEN wait\n@" none = .ok fresh ∧
      study none "IF mystery THEN wait\n@" none = .ok checked ∧
      (runTick (some checked.source) "" none Registry.builtIn .thousandth
        Drone.fresh).report = .ok ticked ∧
      checked.hasErrors = true ∧
      ∃ remarks, fresh.rules.check fresh.script = .ok remarks ∧
        (fresh.script.tick Registry.builtIn .thousandth Drone.fresh).tick = .ok ticked.tick ∧
        ReportsAll fresh.reading remarks checked ticked := by
  obtain ⟨fresh, hread, hfresh⟩ := exists_ofText "IF mystery THEN wait\n@" none
  have hstudy := hfresh.study_eq hread
  have hrange : Drone.fresh.InRange := by
    constructor
    · exact Number.inRange_real _
    · exact Number.inRange_real _
    · exact Number.inRange_real _
    · exact Number.inRange_real _
    · exact ⟨Number.inRange_real _, Number.inRange_real _⟩
  obtain ⟨tick, htick⟩ := Script.exists_tick hrange hfresh.read .thousandth
  have hchecked : fresh.checked.script = fresh.script := rfl
  obtain ⟨ticked, hrun⟩ : ∃ ticked, (runTick (some fresh.checked) "" none Registry.builtIn
      .thousandth Drone.fresh).report = .ok ticked := by
    simp only [runTick, resolve, hchecked, htick]
    exact ⟨_, rfl⟩
  obtain ⟨remarks, hremarks, hsame, hall⟩ := reportsAll_merged.2 Registry.builtIn .thousandth
    Drone.fresh hread .anew (.again _ _ .asked) hstudy hrun
  refine ⟨fresh, _, _, hread, hstudy, hrun, hall.hasErrors.mpr ?_, remarks, hremarks, hsame,
    hall⟩
  have hstray : (ofText "IF mystery THEN wait\n@" none).toOption.map
      (fun source => source.reading.lexerDiagnostics.map Diagnostic.severity) =
        some [.error] := by decide +kernel
  rw [hread] at hstray
  obtain ⟨d, hd, hseverity⟩ := List.map_eq_singleton_iff.mp (Option.some.inj hstray)
  exact ⟨d, Or.inl (by simp [hd]), hseverity⟩

end Source

end Autopilot
