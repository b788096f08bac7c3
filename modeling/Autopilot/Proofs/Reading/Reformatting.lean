import Autopilot.Proofs.Reading.RoundTrip
import Autopilot.Proofs.Reading.Spelled
import Autopilot.Proofs.Tick.Lines

/-!
# Writing a script anew

What was read from a text, whatever is wrong with it, can be written as a text without
mistakes: the statements that were found, one to a line.  The new text is read as the
same statements on their new lines, so that writing it once more changes nothing, and a
tick of it does the same as a tick of the first text.
-/

namespace Autopilot

namespace Script

/-- The script with its statements on the lines from one on. -/
def renumbered (script : Script) : Script where
  statements := script.statements.mapIdx fun i statement => { statement with line := i + 1 }

theorem length_renumbered (script : Script) :
    script.renumbered.statements.length = script.statements.length :=
  List.length_mapIdx

theorem line_renumbered {script : Script} (i : Nat)
    (h : i < script.renumbered.statements.length) :
    script.renumbered.statements[i].line = i + 1 := by
  simp only [renumbered, List.getElem_mapIdx]

theorem forall_mem_renumbered {script : Script} {p : Statement → Prop}
    (hline : ∀ (statement : Statement) (line : Int), p statement → p { statement with line })
    (h : ∀ statement ∈ script.statements, p statement) :
    ∀ statement ∈ script.renumbered.statements, p statement := by
  intro statement hmem
  obtain ⟨i, hi, rfl⟩ := List.mem_mapIdx.mp hmem
  exact hline _ _ (h _ (List.getElem_mem hi))

/-- The text of a script does not show its lines. -/
theorem text_renumbered (script : Script) : script.renumbered.text = script.text := by
  have hmap : script.renumbered.statements.map (fun statement => statement.text ++ "\n") =
      script.statements.map fun statement => statement.text ++ "\n" := by
    apply List.ext_getElem
    · simp only [List.length_map, length_renumbered]
    · intro i hi hi'
      simp only [renumbered, List.getElem_map, List.getElem_mapIdx]
      rfl
  rw [text, text, hmap]

/-- The statements of a script on lines of a text, and on those from one on. -/
theorem forall₂_renumbered {script : Script}
    (h : ∀ statement ∈ script.statements, 1 ≤ statement.line) :
    List.Forall₂ Statement.SameBesideLine script.statements
      script.renumbered.statements := by
  rw [List.forall₂_iff_get]
  refine ⟨script.length_renumbered.symm, ?_⟩
  intro i hi hi'
  simp only [renumbered, List.get_eq_getElem, List.getElem_mapIdx]
  refine ⟨rfl, rfl, h _ (List.getElem_mem hi), ?_⟩
  change (1 : Int) ≤ i + 1
  omega

end Script

/-- A spelled script whose conditions are nested to the left and whose statements stand
on the lines from one on is read back from its text, without a diagnostic. -/
theorem Reading.exists_of_leftNested {script : Script}
    (hspelled : ∀ statement ∈ script.statements, statement.IsSpelled)
    (hlines : ∀ i (h : i < script.statements.length),
      script.statements[i].line = i + 1) (hleft : script.LeftNested) :
    ∃ reading, Reading.ofText script.text = .ok reading ∧
      reading.lexerDiagnostics = [] ∧ reading.parserDiagnostics = [] ∧
      reading.script = script := by
  have hlexemes := Script.lexemes_text hspelled
  obtain ⟨body, ending, htokens, hending, hbody, hplaced⟩ := exists_tokenize script.text
  have hspelling : body.map Token.spelled = spelling script.lexemes := by
    obtain ⟨hsame, -⟩ := List.append_inj' htokens rfl
    rw [← hsame, hlexemes, map_spelled_tokensOf]
  obtain ⟨read, ds, hread, hnil, hsame⟩ :=
    Script.ofTokens_of_spelled hspelled hlines hbody hending hplaced hspelling
  rw [← htokens] at hread
  refine ⟨_, ofText_of_ofTokens hread, ?_, hnil.mpr hleft, hsame hleft⟩
  simp only [tokenize, hlexemes]
  exact diagnosticsOf_of_strays script.strays_lexemes

/-- Every text is read, and the script found in it is written as a text that is read
without a diagnostic, as the same statements on the lines from one on.  So the new text
is not changed by writing its script again.  In every world, and whatever handles the
commands, the two scripts do the same in a tick, lines in reports apart: they leave the
same world and stop with the same fault or end in the same way. -/
theorem Reading.exists_ofText_text_script (text : String) :
    ∃ before after, Reading.ofText text = .ok before ∧
      Reading.ofText before.script.text = .ok after ∧
      after.lexerDiagnostics = [] ∧ after.parserDiagnostics = [] ∧
      after.script = before.script.renumbered ∧
      after.script.text = before.script.text ∧
      ∀ (σ : Type) [World σ] (registry : Registry σ) (tolerance : Tolerance) (world : σ),
        (before.script.tick registry tolerance world).world =
            (after.script.tick registry tolerance world).world ∧
          Leeway.strict.Results Tick.SameBesideLine
            (before.script.tick registry tolerance world).tick
            (after.script.tick registry tolerance world).tick := by
  obtain ⟨before, -, -, hbefore, -, -⟩ := Reading.exists_isCut text
  have hread := Reading.isRead_of_mem hbefore
  have hspelled : ∀ statement ∈ before.script.renumbered.statements,
      statement.IsSpelled := by
    apply Script.forall_mem_renumbered
    · intro statement line h
      exact h
    · intro statement hmem
      exact (hread statement hmem).spelled
  have hleft : before.script.renumbered.LeftNested := by
    apply Script.forall_mem_renumbered
    · intro statement line h
      exact h
    · intro statement hmem
      exact (hread statement hmem).leftNested
  obtain ⟨after, hafter, hlexer, hparser, hscript⟩ :=
    Reading.exists_of_leftNested hspelled Script.line_renumbered hleft
  rw [Script.text_renumbered] at hafter
  refine ⟨before, after, hbefore, hafter, hlexer, hparser, hscript, ?_, ?_⟩
  · rw [hscript, Script.text_renumbered]
  · intro σ _ registry tolerance world
    rw [hscript]
    apply Script.tick_sameBesideLine
    apply Script.forall₂_renumbered
    intro statement hmem
    exact (hread statement hmem).line_pos

end Autopilot
