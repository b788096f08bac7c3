import Autopilot.Proofs.Grammar.Acceptance
import Autopilot.Proofs.Grammar.Dropped
import Autopilot.Proofs.Lexer.Placement
import Autopilot.Reading

/-!
# The segments of a text

The tokens of a text are cut into line breaks, statements and dropped pieces.  Each
statement stands on one line, and there is one remark for each dropped piece.
-/

namespace Autopilot

theorem Position.ne_of_lt {p q : Position} (h : p < q) : p ≠ q := by
  rintro rfl
  exact lt_irrefl p h

theorem StatementTree.kind_ne_newline (tree : StatementTree) :
    ∀ token ∈ tree.tokens, token.kind ≠ .newline := by
  obtain ⟨rest, hcons, hinner⟩ := tree.exists_tokens_eq_cons
  intro token htoken
  rw [hcons] at htoken
  rcases List.mem_cons.mp htoken with rfl | htoken
  · rcases tree.kind_firstToken with hkind | hkind | hkind <;> simp [hkind]
  · exact (hinner token htoken).1

/-- A statement stands as many lines down as there are line breaks before it. -/
theorem StatementTree.line_statement {tree : StatementTree} {front back : List Token}
    (h : ArePlaced (front ++ tree.tokens ++ back)) :
    tree.statement.line = (1 + front.countP (·.kind = .newline) : Nat) := by
  obtain ⟨rest, hcons, -⟩ := tree.exists_tokens_eq_cons
  have hplace := h.line front tree.firstToken (rest ++ back) (by simp [hcons])
  rw [statement, hplace]

/-- The tokens of a statement all stand on its line. -/
theorem StatementTree.line_of_mem {tree : StatementTree} {front back : List Token}
    (h : ArePlaced (front ++ tree.tokens ++ back)) :
    ∀ token ∈ tree.tokens, (token.position.line : Int) = tree.statement.line := by
  intro token htoken
  obtain ⟨before, after, hsplit⟩ := List.append_of_mem htoken
  have hbefore : before.countP (·.kind = .newline) = 0 := by
    rw [List.countP_eq_zero]
    intro other hother
    have hmem : other ∈ tree.tokens := by
      rw [hsplit]
      exact List.mem_append_left _ hother
    simpa using tree.kind_ne_newline other hmem
  have hplace := h.line (front ++ before) token (after ++ back)
    (by simp [hsplit, List.append_assoc])
  rw [hplace, List.countP_append, hbefore, Nat.add_zero, line_statement h]

theorem Reading.ofText_of_ofTokens {text : String} {script : Script}
    {ds : List Diagnostic}
    (h : Script.ofTokens (tokenize text).1 = .ok (script, ds)) :
    Reading.ofText text = .ok ⟨script, (tokenize text).1, (tokenize text).2, ds⟩ := by
  simp only [ofText, h, bind, Except.bind, pure, Except.pure]

/-- The tokens of a reading are cut into segments: the statements among them are those
of the script, each on one line, and every dropped piece has its remark. -/
structure Reading.IsCut (reading : Reading) (segments : List Segment)
    (ending : Token) : Prop where
  tokens : reading.tokens = segments.flatMap Segment.tokens ++ [ending]
  ending_kind : ending.kind = .eof
  kind_ne : ∀ token ∈ segments.flatMap Segment.tokens, token.kind ≠ .eof
  statements : reading.script.statements = segments.filterMap Segment.statement?
  one_line : ∀ tree, .statement tree ∈ segments →
    ∀ token ∈ tree.tokens, (token.position.line : Int) = tree.statement.line
  diagnostics : reading.parserDiagnostics = segments.filterMap Segment.diagnostic?
  fits : Segment.AllFit ending segments

theorem Reading.exists_isCut (text : String) :
    ∃ reading segments ending, Reading.ofText text = .ok reading ∧
      reading.IsCut segments ending ∧ ArePlaced reading.tokens := by
  obtain ⟨body, ending, htokenize, hending, hbody, hplaced⟩ := exists_tokenize text
  obtain ⟨segments, hread, htokens, hfit⟩ :=
    Script.exists_segments_ofTokens hbody hending
  have hkept : (segments.filterMap Segment.diagnostic?).foldl Diagnostic.noted [] =
      segments.filterMap Segment.diagnostic? := by
    rw [← htokens] at hbody hplaced
    have hincreasing := Segment.pairwise_diagnostics hfit hbody hplaced.increasing
    exact Diagnostic.foldl_noted (hincreasing.imp Position.ne_of_lt)
  rw [hkept, ← htokenize] at hread
  refine ⟨_, segments, ending, ofText_of_ofTokens hread, ?_, ?_⟩
  · rw [← htokens] at hbody hplaced
    constructor
    · rw [htokenize, htokens]
    · exact hending
    · exact hbody
    · rfl
    · intro tree htree
      obtain ⟨before, after, hsplit⟩ := List.append_of_mem htree
      rw [hsplit, List.flatMap_append, List.flatMap_cons, ← List.append_assoc,
        List.append_assoc] at hplaced
      exact tree.line_of_mem hplaced
    · rfl
    · exact hfit
  · rw [htokenize]
    exact hplaced

/-- Every text is read, and its tokens are accounted for.  The remarks follow the order
of the text, every `IF` and `ELSE` starts a statement or a dropped piece, and there is
at most one remark more than there are line breaks, `IF` and `ELSE`. -/
theorem Reading.exists_segments (text : String) :
    ∃ reading segments ending, Reading.ofText text = .ok reading ∧
      reading.IsCut segments ending ∧
      reading.parserDiagnostics.Pairwise (fun a b => a.position < b.position) ∧
      (∀ front token back, segments.flatMap Segment.tokens = front ++ token :: back →
        token.kind = .ifWord ∨ token.kind = .elseWord →
        ∃ before segment after, segments = before ++ segment :: after ∧
          before.flatMap Segment.tokens = front ∧
          ((∃ tree, segment = .statement tree ∧ tree.firstToken = token) ∨
            ∃ more found remark, segment = .dropped (token :: more) found remark)) ∧
      reading.parserDiagnostics.length ≤
        1 + reading.tokens.countP (·.kind ∈ [.newline, .ifWord, .elseWord]) := by
  obtain ⟨reading, segments, ending, hread, hcut, hplaced⟩ := exists_isCut text
  refine ⟨reading, segments, ending, hread, hcut, ?_, ?_, ?_⟩
  · rw [hcut.tokens] at hplaced
    rw [hcut.diagnostics]
    exact Segment.pairwise_diagnostics hcut.fits hcut.kind_ne hplaced.increasing
  · intro front token back hsplit hresumes
    obtain ⟨before, segment, after, more, hsegments, hbefore, hcons⟩ :=
      Segment.exists_of_resumes hcut.fits hsplit hresumes
    refine ⟨before, segment, after, hsegments, hbefore, ?_⟩
    cases segment with
    | separator newline =>
        obtain rfl : newline.token = token := (List.cons.inj hcons).1
        rw [newline.kind_eq] at hresumes
        simp at hresumes
    | statement tree =>
        obtain ⟨rest, htree, -⟩ := tree.exists_tokens_eq_cons
        exact Or.inl ⟨tree, rfl, (List.cons.inj (htree.symm.trans hcons)).1⟩
    | dropped lost found remark =>
        exact Or.inr ⟨more, found, remark, by rw [← hcons]; rfl⟩
  · rw [hcut.diagnostics, hcut.tokens, List.countP_append]
    have hle := (Segment.length_diagnostics_le hcut.fits hcut.kind_ne).1
    change _ ≤ 1 + (_ + [ending].countP Token.isBoundary)
    exact Nat.le_trans hle (Nat.add_le_add_left (Nat.le_add_right _ _) 1)

end Autopilot
