import Autopilot.Proofs.Grammar.Unambiguity

/-!
# What the reader of scripts accepts

Tokens are read without a remark exactly when they have a derivation, and then the
script is the one that their derivation stands for.
-/

namespace Autopilot

namespace Segment

/-- Segments without dropped tokens are a derivation. -/
theorem exists_statements_of_diagnostics_nil {segments : List Segment}
    (h : segments.filterMap diagnostic? = []) :
    ∃ (separators : List (Terminal .newline))
      (statements : List (StatementTree × List (Terminal .newline))),
      segments.flatMap tokens = separators.map (·.token) ++ statementTokens statements ∧
      segments.filterMap statement? = statements.map (·.1.statement) := by
  induction segments with
  | nil => exact ⟨[], [], rfl, rfl⟩
  | cons segment segments ih =>
      cases segment with
      | separator newline =>
          obtain ⟨separators, statements, htokens, hstatements⟩ := ih h
          refine ⟨newline :: separators, statements, ?_, hstatements⟩
          rw [List.flatMap_cons, htokens]
          rfl
      | statement tree =>
          obtain ⟨separators, statements, htokens, hstatements⟩ := ih h
          refine ⟨[], (tree, separators) :: statements, ?_, ?_⟩
          · rw [List.flatMap_cons, htokens, statementTokens_cons, List.append_assoc]
            rfl
          · simp only [List.filterMap_cons, statement?, hstatements, List.map_cons]
      | dropped tokens found remark => cases h

end Segment

namespace Grammar

open Segment

/-- A whole script is cut into segments, wherever the cursor starts. -/
theorem exists_segments_script (c : Cursor) :
    ∃ segments c',
      script c = (.ok ⟨segments.filterMap statement?⟩, c') ∧
      segments.flatMap tokens = c.pending ∧ AllFit c.ending segments ∧
      c'.pending = [] ∧ c'.ending = c.ending ∧
      c'.position = c.position + c.pending.length ∧
      c'.diagnostics =
        (segments.filterMap diagnostic?).foldl Diagnostic.noted c.diagnostics := by
  obtain ⟨newlines, hskip, -⟩ := skipSeparators_passes c
  obtain ⟨segments, c', hread, htokens, hfit, hpending, hending, hposition,
    hdiagnostics⟩ := read_statementList_segments (skipSeparators c)
  rw [hskip.ending] at hfit hending
  refine ⟨separators newlines ++ segments, c', ?_, ?_,
    allFit_separators_append newlines hfit, hpending, hending, ?_, ?_⟩
  · rw [script, hread, List.filterMap_append, filterMap_statement?_separators]
    rfl
  · rw [List.flatMap_append, flatMap_tokens_separators, htokens, hskip.pending]
  · rw [hposition, hskip.position, hskip.pending, List.length_append, Nat.add_assoc]
  · rw [hdiagnostics, hskip.diagnostics, List.filterMap_append,
      filterMap_diagnostic?_separators, List.nil_append]

end Grammar

section Tokens

variable {body : List Token} {ending : Token}

/-- A list of tokens that ends with its only end token is cut into segments. -/
theorem Script.exists_segments_ofTokens
    (hbody : ∀ token ∈ body, token.kind ≠ .eof) (hending : ending.kind = .eof) :
    ∃ segments : List Segment,
      Script.ofTokens (body ++ [ending]) =
        .ok (⟨segments.filterMap Segment.statement?⟩,
          (segments.filterMap Segment.diagnostic?).foldl Diagnostic.noted []) ∧
      segments.flatMap Segment.tokens = body ∧ Segment.AllFit ending segments := by
  obtain ⟨c, hc, -, hpending, hend, hdiagnostics⟩ :=
    Cursor.exists_ofTokens? hbody hending
  obtain ⟨segments, c', hscript, htokens, hfit, -, -, -, hnoted⟩ :=
    Grammar.exists_segments_script c
  rw [hpending] at htokens
  rw [hend] at hfit
  rw [hdiagnostics] at hnoted
  refine ⟨segments, ?_, htokens, hfit⟩
  rw [← hnoted]
  exact ofTokens_of_script hc hscript

/-- Once a remark has been made there is one. -/
theorem Diagnostic.foldl_noted_eq_nil_iff {ds : List Diagnostic} :
    ds.foldl noted [] = [] ↔ ds = [] := by
  have hkeep : ∀ (more made : List Diagnostic), made ≠ [] →
      more.foldl noted made ≠ [] := by
    intro more
    induction more with
    | nil => exact fun made hmade => hmade
    | cons d more ih => exact fun made _ => ih _ (noted_ne_nil made d)
  cases ds with
  | nil => simp
  | cons d ds => simpa using hkeep ds _ (noted_ne_nil [] d)

/-- The tokens of a derivation are read as what it stands for. -/
theorem ScriptTree.ofTokens_of_tokens_eq {tree : ScriptTree}
    (hbody : ∀ token ∈ body, token.kind ≠ .eof)
    (h : tree.tokens = body ++ [ending]) :
    Script.ofTokens (body ++ [ending]) = .ok (tree.script, []) := by
  obtain ⟨separators, statements, last⟩ := tree
  obtain ⟨hsplit, hlast⟩ := List.append_inj' h rfl
  obtain rfl : last.token = ending := (List.cons.inj hlast).1
  obtain ⟨c, hc, -, hpending, hend, hdiagnostics⟩ :=
    Cursor.exists_ofTokens? hbody last.kind_eq
  rw [← hsplit] at hpending
  obtain ⟨c₁, hseparators, hrest⟩ := Cursor.exists_passes hpending
  obtain ⟨c', hstatements, hnil⟩ := Cursor.exists_passes
    (hrest.trans (List.append_nil _).symm)
  have hkind := (Grammar.kind_of_statementTokens hstatements hnil).1
  have hread := Grammar.read_statementList_of_passes hstatements hnil
  rw [Script.ofTokens, hc]
  simp only [Grammar.script, Grammar.skipSeparators_of_passes hseparators hkind, hread,
    bind, Except.bind, pure, Except.pure, Except.map]
  rw [hstatements.diagnostics, hseparators.diagnostics, hdiagnostics]
  rfl

/-- Tokens on which no remark is made have a derivation. -/
theorem Script.exists_tree_of_ofTokens (hbody : ∀ token ∈ body, token.kind ≠ .eof)
    (hending : ending.kind = .eof) {script : Script}
    (h : Script.ofTokens (body ++ [ending]) = .ok (script, [])) :
    ∃ tree : ScriptTree, tree.tokens = body ++ [ending] := by
  obtain ⟨segments, hread, htokens, -⟩ := exists_segments_ofTokens hbody hending
  have hnil := (Prod.mk.inj (Except.ok.inj (hread.symm.trans h))).2
  obtain ⟨separators, statements, hsplit, -⟩ :=
    Segment.exists_statements_of_diagnostics_nil
      (Diagnostic.foldl_noted_eq_nil_iff.mp hnil)
  refine ⟨⟨separators, statements, ⟨ending, hending⟩⟩, ?_⟩
  rw [ScriptTree.tokens, ← hsplit, htokens]

/-- The reader makes no remark exactly on the token lists that have a derivation.  A
list has at most one, and the script is what it stands for. -/
theorem Script.ofTokens_diagnostics_nil_iff
    (hbody : ∀ token ∈ body, token.kind ≠ .eof) (hending : ending.kind = .eof) :
    ∃ script diagnostics,
      Script.ofTokens (body ++ [ending]) = .ok (script, diagnostics) ∧
      (diagnostics = [] ↔ ∃ tree : ScriptTree, tree.tokens = body ++ [ending]) ∧
      ∀ tree : ScriptTree, tree.tokens = body ++ [ending] →
        script = tree.script ∧
          ∀ tree' : ScriptTree, tree'.tokens = body ++ [ending] → tree' = tree := by
  obtain ⟨segments, hread, -, -⟩ := exists_segments_ofTokens hbody hending
  refine ⟨_, _, hread, ⟨?_, ?_⟩, ?_⟩
  · intro hnil
    rw [hnil] at hread
    exact exists_tree_of_ofTokens hbody hending hread
  · rintro ⟨tree, htree⟩
    have hscript := ScriptTree.ofTokens_of_tokens_eq hbody htree
    rw [hread] at hscript
    exact (Prod.mk.inj (Except.ok.inj hscript)).2
  · intro tree htree
    have hscript := ScriptTree.ofTokens_of_tokens_eq hbody htree
    rw [hread] at hscript
    refine ⟨(Prod.mk.inj (Except.ok.inj hscript)).1, fun tree' htree' => ?_⟩
    exact ScriptTree.tokens_injective (htree'.trans htree.symm)

end Tokens

/-- Two statements may share a line: `fly(x) ELSE land`. -/
theorem Script.ofTokens_two_on_one_line :
    let word (text : String) (p : Position) : Terminal .identifier :=
      ⟨⟨.identifier, text, p⟩, rfl⟩
    let arguments : ArgumentsTree :=
      ⟨⟨⟨.leftParen, "(", .mk 1 4⟩, rfl⟩, some ⟨.name (word "x" (.mk 1 5)), []⟩,
        ⟨⟨.rightParen, ")", .mk 1 6⟩, rfl⟩⟩
    let tree : ScriptTree :=
      ⟨[], [(.bare ⟨word "fly" (.mk 1 1), some arguments⟩, []),
        (.fallback ⟨⟨.elseWord, "ELSE", .mk 1 8⟩, rfl⟩ ⟨word "land" (.mk 1 13), none⟩,
          [])], ⟨Token.ending (.mk 1 17), rfl⟩⟩
    Script.ofTokens tree.tokens = .ok (tree.script, []) ∧
      tree.script.statements =
        [⟨.always, ⟨"fly", [.name "x"]⟩, 1⟩, ⟨.fallback, ⟨"land", []⟩, 1⟩] := by
  intro word arguments tree
  obtain ⟨script, diagnostics, hread, hnil, htree⟩ :=
    Script.ofTokens_diagnostics_nil_iff
      (by decide : ∀ token ∈ tree.tokens.dropLast, token.kind ≠ .eof)
      (rfl : (Token.ending (.mk 1 17)).kind = .eof)
  obtain rfl := (htree tree rfl).1
  obtain rfl := hnil.mpr ⟨tree, rfl⟩
  exact ⟨hread, rfl⟩

end Autopilot
