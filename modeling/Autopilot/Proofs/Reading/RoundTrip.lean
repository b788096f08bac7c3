import Autopilot.Proofs.Grammar.Parenthesis
import Autopilot.Proofs.Reading.Segments

/-!
# Reading what was written

The text of a script is read back as the script, provided that its conditions are
nested to the left.  If one of them is not, the text is not accepted.
-/

namespace Autopilot

open Lexeme

/-- The statements of a script, each with the line break behind it, have derivations
that stand for them, with their lines. -/
theorem exists_statementTrees {statements : List Statement}
    (hspelled : ∀ statement ∈ statements, statement.IsSpelled)
    (hleft : ∀ statement ∈ statements, statement.trigger.LeftNested)
    {front tokens back : List Token}
    (htokens : tokens.map Token.spelled = spelling (Script.mk statements).lexemes)
    (hplaced : ArePlaced (front ++ tokens ++ back))
    (hlines : ∀ i (h : i < statements.length),
      statements[i].line = (front.countP (·.kind = .newline) : Nat) + 1 + i) :
    ∃ trees : List (StatementTree × List (Terminal .newline)),
      statementTokens trees = tokens ∧ trees.map (·.1.statement) = statements := by
  induction statements generalizing front tokens with
  | nil =>
      obtain rfl := List.map_eq_nil_iff.mp htokens
      exact ⟨[], rfl, rfl⟩
  | cons statement statements ih =>
      have hcons : spelling (Script.mk (statement :: statements)).lexemes =
          spelling statement.lexemes ++
            ((.newline, "\n") :: spelling (Script.mk statements).lexemes) := by
        simp [Script.lexemes]
      rw [hcons] at htokens
      obtain ⟨hfirstSpelled, hothersSpelled⟩ := List.forall_mem_cons.mp hspelled
      obtain ⟨hfirstLeft, hothersLeft⟩ := List.forall_mem_cons.mp hleft
      obtain ⟨line, behind, rfl, hline, hbehind⟩ := List.map_eq_append_iff.mp htokens
      obtain ⟨newline, later, rfl, -, hlater⟩ := exists_of_map_spelled_cons hbehind
      obtain ⟨tree, rfl, htrigger, hcommand⟩ :=
        Statement.exists_statementTree hfirstSpelled hfirstLeft hline
      have hnone : tree.tokens.countP (·.kind = .newline) = 0 := by
        rw [List.countP_eq_zero]
        intro token htoken
        simpa using tree.kind_ne_newline token htoken
      have hcount : (front ++ tree.tokens ++ [newline.token]).countP
          (·.kind = .newline) = front.countP (·.kind = .newline) + 1 := by
        rw [List.countP_append, List.countP_append, hnone]
        simp [newline.kind_eq]
      have hbelow : ArePlaced
          ((front ++ tree.tokens ++ [newline.token]) ++ later ++ back) := by
        simpa using hplaced
      have hthis : ArePlaced (front ++ tree.tokens ++ (newline.token :: later ++ back)) := by
        simpa using hplaced
      have hlaterLines : ∀ i (h : i < statements.length), statements[i].line =
          ((front ++ tree.tokens ++ [newline.token]).countP
            (·.kind = .newline) : Nat) + 1 + i := by
        intro i hi
        have hnext := hlines (i + 1) (Nat.succ_lt_succ hi)
        rw [List.getElem_cons_succ] at hnext
        rw [hnext, hcount]
        omega
      obtain ⟨trees, rfl, rfl⟩ :=
        ih hothersSpelled hothersLeft hlater hbelow hlaterLines
      have hfirst : tree.statement.line = statement.line := by
        have hgiven := hlines 0 (Nat.succ_pos _)
        rw [List.getElem_cons_zero] at hgiven
        rw [hgiven, StatementTree.line_statement hthis]
        omega
      have hstatement : tree.statement = statement :=
        calc
          tree.statement =
              ⟨tree.trigger, tree.commandTree.command, tree.statement.line⟩ := rfl
          _ = ⟨statement.trigger, statement.command, statement.line⟩ := by
            rw [htrigger, hcommand, hfirst]
          _ = statement := rfl
      refine ⟨(tree, [newline]) :: trees, ?_, ?_⟩
      · rw [statementTokens_cons]
        simp
      · rw [List.map_cons, hstatement]

/-- Tokens that are spelled as a script and stand on the lines of its statements. -/
theorem Script.ofTokens_of_spelled {script : Script}
    (hspelled : ∀ statement ∈ script.statements, statement.IsSpelled)
    (hlines : ∀ i (h : i < script.statements.length),
      script.statements[i].line = i + 1)
    {body : List Token} {ending : Token} (hbody : ∀ token ∈ body, token.kind ≠ .eof)
    (hending : ending.kind = .eof) (hplaced : ArePlaced (body ++ [ending]))
    (htokens : body.map Token.spelled = spelling script.lexemes) :
    ∃ read ds, Script.ofTokens (body ++ [ending]) = .ok (read, ds) ∧
      (ds = [] ↔ script.LeftNested) ∧ (script.LeftNested → read = script) := by
  obtain ⟨statements⟩ := script
  by_cases hleft : (Script.mk statements).LeftNested
  · have hnumbered : ∀ i (h : i < statements.length), statements[i].line =
        (([] : List Token).countP (·.kind = .newline) : Nat) + 1 + i := by
      intro i hi
      rw [hlines i hi, List.countP_nil]
      omega
    obtain ⟨trees, hbodyTokens, hstatements⟩ := exists_statementTrees hspelled hleft
      htokens (hplaced : ArePlaced ([] ++ body ++ [ending])) hnumbered
    have htree : (ScriptTree.mk [] trees ⟨ending, hending⟩).tokens = body ++ [ending] := by
      rw [ScriptTree.tokens, hbodyTokens]
      rfl
    have hscript : (ScriptTree.mk [] trees ⟨ending, hending⟩).script = ⟨statements⟩ :=
      congrArg Script.mk hstatements
    have hread := ScriptTree.ofTokens_of_tokens_eq hbody htree
    rw [hscript] at hread
    exact ⟨_, _, hread, ⟨fun _ => hleft, fun _ => rfl⟩, fun _ => rfl⟩
  · obtain ⟨segments, hread, -, -⟩ := exists_segments_ofTokens hbody hending
    refine ⟨_, _, hread, ⟨?_, fun h => absurd h hleft⟩, fun h => absurd h hleft⟩
    intro hnil
    rw [hnil] at hread
    obtain ⟨tree, htree⟩ := exists_tree_of_ofTokens hbody hending hread
    have hopens := (Script.opensJoined hleft).append_right [ending.spelled]
    have hnot := tree.opensApart.not_joined
    rw [htree, List.map_append, htokens] at hnot
    exact absurd hopens hnot

/-- The text of a spelled script is read without a diagnostic exactly if the conditions
are nested to the left, and then it is read back as the same script. -/
theorem Reading.ofText_text {script : Script}
    (hspelled : ∀ statement ∈ script.statements, statement.IsSpelled)
    (hlines : ∀ i (h : i < script.statements.length),
      script.statements[i].line = i + 1) :
    ∃ reading, Reading.ofText script.text = .ok reading ∧
      (reading.lexerDiagnostics = [] ∧ reading.parserDiagnostics = [] ↔
        script.LeftNested) ∧
      (script.LeftNested → reading.script = script) := by
  have hlexemes := Script.lexemes_text hspelled
  obtain ⟨body, ending, htokenize, hending, hbody, hplaced⟩ :=
    exists_tokenize script.text
  have hlexer : (tokenize script.text).2 = [] := by
    simp only [tokenize, hlexemes]
    exact diagnosticsOf_of_strays script.strays_lexemes
  have hspelling : body.map Token.spelled = spelling script.lexemes := by
    obtain ⟨hsame, -⟩ := List.append_inj' htokenize rfl
    rw [← hsame, hlexemes, map_spelled_tokensOf]
  obtain ⟨read, ds, hread, hnil, hsame⟩ :=
    Script.ofTokens_of_spelled hspelled hlines hbody hending hplaced hspelling
  rw [← htokenize] at hread
  refine ⟨_, ofText_of_ofTokens hread, ?_, hsame⟩
  rw [← hnil]
  constructor
  · rintro ⟨-, hds⟩
    exact hds
  · intro hds
    exact ⟨hlexer, hds⟩

/-- A chain of two terms, a command with arguments and a fallback are read back. -/
theorem Reading.ofText_text_of_two_statements :
    let chain : Condition := .logical
      (.comparison "battery" .less (.number "20.5")) .conj (.query "airborne")
    let script : Script :=
      ⟨[⟨.condition chain, ⟨"land", [.name "home", .number "3"]⟩, 1⟩,
        ⟨.fallback, ⟨"hover", []⟩, 2⟩]⟩
    script.text =
        "IF battery < 20.5 AND airborne THEN land(home, 3)\nELSE hover\n" ∧
      ∃ reading, Reading.ofText script.text = .ok reading ∧
        reading.lexerDiagnostics = [] ∧ reading.parserDiagnostics = [] ∧
        reading.script = script := by
  intro chain script
  have hchain : chain.IsSpelled :=
    ⟨⟨⟨by decide, by decide⟩, Or.inr ⟨['2', '0'], ['5'], rfl, rfl, rfl⟩⟩,
      ⟨by decide, by decide⟩⟩
  have hland : (Command.mk "land" [.name "home", .number "3"]).IsSpelled := by
    refine ⟨⟨by decide, by decide⟩, ?_⟩
    intro argument hmem
    simp only [List.mem_cons, List.not_mem_nil, or_false] at hmem
    rcases hmem with rfl | rfl
    · exact ⟨by decide, by decide⟩
    · exact Or.inl rfl
  have hspelled : ∀ statement ∈ script.statements, statement.IsSpelled := by
    intro statement hmem
    simp only [script, List.mem_cons, List.not_mem_nil, or_false] at hmem
    rcases hmem with rfl | rfl
    · exact ⟨hchain, hland⟩
    · exact ⟨trivial, ⟨by decide, by decide⟩, by simp⟩
  have hlines : ∀ i (h : i < script.statements.length),
      script.statements[i].line = i + 1 := by
    decide
  have hleft : script.LeftNested := by
    intro statement hmem
    simp only [script, List.mem_cons, List.not_mem_nil, or_false] at hmem
    rcases hmem with rfl | rfl
    · exact ⟨trivial, trivial, rfl⟩
    · trivial
  obtain ⟨reading, hread, hnone, hsame⟩ := Reading.ofText_text hspelled hlines
  obtain ⟨hlexer, hparser⟩ := hnone.mpr hleft
  exact ⟨by decide, reading, hread, hlexer, hparser, hsame hleft⟩

end Autopilot
