import Autopilot.Proofs.Cursor.Joined
import Autopilot.Proofs.Grammar.Simulation
import Autopilot.Proofs.Reading.Segments

/-!
# Line by line

Two texts joined by a line break are read as each of them is read alone: whatever is
wrong in one of them, the statements and the diagnostics of the other stay the same.
-/

namespace Autopilot

namespace Grammar

open Cursor

/-- A script that goes on behind a line break is read as the script above the break and
then as the one below it. -/
theorem script_of_above {place : Position} {cA cB c : Cursor}
    (h : Above place (cB.pending.map (Token.lowered place.line))
      (cB.ending.lowered place.line) cA c)
    (hstart : cB.diagnostics = []) :
    ∃ sA sB cA₁ cB₁ c₁, script cA = (.ok ⟨sA⟩, cA₁) ∧ script cB = (.ok ⟨sB⟩, cB₁) ∧
      script c = (.ok ⟨sA ++ sB.map (Statement.lowered place.line)⟩, c₁) ∧
      ∃ told, Diagnostic.Retold place cA₁.diagnostics told ∧
        c₁.diagnostics =
          told ++ cB₁.diagnostics.map (Diagnostic.lowered place.line) := by
  rcases read_alike simulates_above (skipSeparators_alike simulates_above h) with
    ⟨_, _, c₁, halike, hended, -, -⟩ | ⟨sA, cA₁, c₁, hover, hread, hread'⟩
  · have hpending := halike.pending
    rw [hended] at hpending
    simp at hpending
  · have hpending := hover.alike.pending
    rw [hover.ended, List.nil_append] at hpending
    have hbelow : Below place.line c₁.diagnostics cB c₁.advance := by
      constructor
      · rw [pending_advance, hpending, List.tail_cons]
      · exact hover.alike.end_behind
      · rw [hstart, List.map_nil, List.append_nil]
        rfl
    have hsimulates := simulates_below hover.alike.diagnostics.line_le
    rcases read_alike hsimulates (skipSeparators_alike hsimulates hbelow) with
      ⟨sB, cB₁, c₂, hlast, -, hreadB, hreadB'⟩ | ⟨_, cB₁, c₂, hover', -, -⟩
    · refine ⟨sA, sB, cA₁, cB₁, c₂, ?_, ?_, ?_, _, hover.alike.diagnostics,
        hlast.diagnostics⟩
      · rw [script, hread]
        rfl
      · rw [script, hreadB]
        rfl
      · rw [script, hread', hreadB', Statement.lowered_zero, List.map_id]
        rfl
    · have hkind := hover'.newline
      have hend := current_kind_eq_eof_iff.mpr hover'.ended
      rw [hover'.alike.current_eq] at hkind
      exact absurd (hend.symm.trans hkind) (by decide)

end Grammar

/-- Tokens above and below a line break are read apart. -/
theorem Script.ofTokens_joined {front back : List Token} {place : Position}
    {ending : Token} (hfront : ∀ token ∈ front, token.kind ≠ .eof)
    (hback : ∀ token ∈ back, token.kind ≠ .eof) (hending : ending.kind = .eof)
    (hbefore : ∀ token ∈ front, token.position < place) :
    ∃ sA dA sB dB told,
      Script.ofTokens (front ++ [Token.ending place]) = .ok (⟨sA⟩, dA) ∧
      Script.ofTokens (back ++ [ending]) = .ok (⟨sB⟩, dB) ∧
      Diagnostic.Retold place dA told ∧
      Script.ofTokens (front ++ Token.lineBreak place ::
          (back ++ [ending]).map (Token.lowered place.line)) =
        .ok (⟨sA ++ sB.map (Statement.lowered place.line)⟩,
          told ++ dB.map (Diagnostic.lowered place.line)) := by
  obtain ⟨cA, hcA, -, hpendingA, hendA, hdA⟩ :=
    Cursor.exists_ofTokens? hfront (rfl : (Token.ending place).kind = .eof)
  obtain ⟨cB, hcB, -, hpendingB, hendB, hdB⟩ := Cursor.exists_ofTokens? hback hending
  have hjoined : front ++ Token.lineBreak place ::
      (back ++ [ending]).map (Token.lowered place.line) =
        (front ++ Token.lineBreak place :: back.map (Token.lowered place.line)) ++
          [ending.lowered place.line] := by
    simp [List.append_assoc]
  have hkinds : ∀ token ∈ front ++ Token.lineBreak place ::
      back.map (Token.lowered place.line), token.kind ≠ .eof := by
    intro token htoken
    rcases List.mem_append.mp htoken with htoken | htoken
    · exact hfront token htoken
    · rcases List.mem_cons.mp htoken with rfl | htoken
      · simp [Token.lineBreak]
      · obtain ⟨below, hbelow, rfl⟩ := List.mem_map.mp htoken
        exact hback below hbelow
  have hlast : (ending.lowered place.line).kind = .eof := hending
  obtain ⟨c, hc, -, hpending, hend, hd⟩ := Cursor.exists_ofTokens? hkinds hlast
  have habove : Cursor.Above place (cB.pending.map (Token.lowered place.line))
      (cB.ending.lowered place.line) cA c := by
    constructor
    · rw [hpending, hpendingA, hpendingB]
    · exact hendA
    · rw [hend, hendB]
    · rw [hpendingA]
      exact hbefore
    · rw [hdA, hd]
      exact .same [] (by simp)
    · rw [hdA]
      simp
  obtain ⟨sA, sB, cA₁, cB₁, c₁, hreadA, hreadB, hread, told, htold, hdiagnostics⟩ :=
    Grammar.script_of_above habove hdB
  refine ⟨sA, cA₁.diagnostics, sB, cB₁.diagnostics, told, ?_, ?_, htold, ?_⟩
  · exact ofTokens_of_script hcA hreadA
  · exact ofTokens_of_script hcB hreadB
  · rw [hjoined, ← hdiagnostics]
    exact ofTokens_of_script hc hread

/-- Two texts joined by a line break are read apart.  The tokens are those of the first
text, the line break where that text ends, and those of the second text further down;
the statements and the diagnostics follow one another.  A remark on the end of the first
text is now one on the line break. -/
theorem Reading.ofText_append_newline (a b : String) :
    let lines := 1 + a.toList.count '\n'
    ∃ ra rb r body place told,
      Reading.ofText a = .ok ra ∧ Reading.ofText b = .ok rb ∧
      Reading.ofText (a ++ "\n" ++ b) = .ok r ∧
      ra.tokens = body ++ [Token.ending place] ∧
      r.tokens =
        body ++ Token.lineBreak place :: rb.tokens.map (Token.lowered lines) ∧
      r.script.statements = ra.script.statements ++
        rb.script.statements.map (Statement.lowered lines) ∧
      r.lexerDiagnostics = ra.lexerDiagnostics ++
        rb.lexerDiagnostics.map (Diagnostic.lowered lines) ∧
      Diagnostic.Retold place ra.parserDiagnostics told ∧
      r.parserDiagnostics =
        told ++ rb.parserDiagnostics.map (Diagnostic.lowered lines) := by
  intro lines
  obtain ⟨body, place, htokensA, hline, htokens⟩ := tokens_append_newline a b
  obtain ⟨bodyA, endingA, hsplitA, -, hkindA, hplacedA⟩ := exists_tokenize a
  obtain ⟨bodyB, endingB, htokensB, hendB, hkindB, -⟩ := exists_tokenize b
  obtain ⟨rfl, hending⟩ := List.append_inj' (htokensA.symm.trans hsplitA) rfl
  have hbefore : ∀ token ∈ body, token.position < place := by
    intro token htoken
    have hincreasing := hplacedA.increasing
    rw [← hending] at hincreasing
    exact (List.pairwise_append.mp hincreasing).2.2 token htoken
      (Token.ending place) List.mem_cons_self
  obtain ⟨sA, dA, sB, dB, told, hreadA, hreadB, htold, hread⟩ :=
    Script.ofTokens_joined hkindA hkindB hendB hbefore
  rw [← htokensA] at hreadA
  rw [← htokensB] at hreadB
  rw [← htokensB, hline, Token.lineBreak, ← htokens] at hread
  exact ⟨_, _, _, body, place, told, Reading.ofText_of_ofTokens hreadA,
    Reading.ofText_of_ofTokens hreadB, Reading.ofText_of_ofTokens hread, htokensA,
    htokens, rfl, lexerDiagnostics_append_newline a b, htold, rfl⟩

end Autopilot
