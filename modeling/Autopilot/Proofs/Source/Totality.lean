import Autopilot.Proofs.Tick.Totality

/-!
# Checks and ticks of any text

Whatever a text holds, its check gives a report, and so does its tick in a drone with
numbers in the range of the reals.
-/

namespace Autopilot

namespace Source

/-- A source that was just read from a text: nothing was asked of it yet. -/
structure IsFresh (source : Source) : Prop where
  remarks : source.remarks = none
  read : ∀ statement ∈ source.script.statements, statement.IsRead

/-- Every text is read. -/
theorem exists_ofText (text : String) (rules : Option Rules) :
    ∃ source, Source.ofText text rules = .ok source ∧ source.IsFresh := by
  obtain ⟨reading, -, -, hread, -, -⟩ := Reading.exists_isCut text
  refine ⟨⟨text, reading, rules.getD Rules.none, none⟩, ?_, rfl, ?_⟩
  · rw [ofText, hread]
    rfl
  · exact Reading.isRead_of_mem hread

/-- A source that remembers the remarks of its check. -/
def checked (source : Source) : Source :=
  { source with remarks := some (source.rules.violations source.script) }

theorem IsFresh.check_eq {source : Source} (h : source.IsFresh) :
    source.check = .ok (source.rules.violations source.script, source.checked) := by
  have hlines : ∀ statement ∈ source.script.statements, 1 ≤ statement.line := by
    intro statement hmem
    exact (h.read statement hmem).line_pos
  simp only [check, h.remarks, Rules.check_of_lines hlines]
  rfl

/-- The report of the check of a source. -/
def checkReport (source : Source) : CheckReport :=
  let diagnostics :=
    Diagnostic.merged (source.reading.diagnostics ++ source.rules.violations source.script)
  ⟨source.checked, diagnostics, Diagnostic.anyError diagnostics⟩

theorem resolve_none (text : String) (rules : Option Rules) :
    resolve none text rules = ofText text rules := by
  cases rules <;> rfl

theorem IsFresh.study_eq {source : Source} (h : source.IsFresh) {text : String}
    {rules : Option Rules} (hread : ofText text rules = .ok source) :
    study none text rules = .ok source.checkReport := by
  simp only [study, resolve_none, hread, bind, Except.bind, h.check_eq]
  rfl

end Source

end Autopilot
