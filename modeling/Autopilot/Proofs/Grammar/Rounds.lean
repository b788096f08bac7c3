import Autopilot.Proofs.Grammar.Outcome

/-!
# The rounds of the list of statements

A round of the list of statements reads one statement, or drops what cannot be read,
and passes the line breaks behind it.  Every round passes a token, so that the list
never stalls, and `read_statementList` is the recursion without the guard.
-/

namespace Autopilot

/-- Whether reading is taken up in front of a token. -/
def Token.Resumes (token : Token) : Prop :=
  token.kind = .ifWord ∨ token.kind = .elseWord

theorem Token.isInner_iff {token : Token} :
    token.IsInner ↔ token.kind ≠ .newline ∧ ¬ token.Resumes := by
  rw [IsInner, Resumes, not_or]

namespace Recovery

theorem isAtAny_statement_iff {c : Cursor} :
    c.isAtAny statement.resume = true ↔ c.current.Resumes := by
  simp [Cursor.isAtAny, statement, Token.Resumes]

theorem isAt_newline_of_statement {c : Cursor} :
    (statement.lineBreak && c.isAt .newline) = true ↔ c.current.kind = .newline := by
  rw [← Cursor.isAt_iff]
  simp [statement]

theorem discard_of_eof {c : Cursor} (h : c.current.kind = .eof) :
    statement.discard c = c := by
  rw [discard, dif_pos (Cursor.isAt_iff.mpr h)]

theorem discard_of_newline {c : Cursor} (h : c.current.kind = .newline) :
    statement.discard c = c.advance := by
  have hend : ¬ c.isAt .eof = true := by simp [Cursor.isAt_iff, h]
  rw [discard, dif_neg hend, if_pos (isAt_newline_of_statement.mpr h)]

theorem discard_of_resumes {c : Cursor} (h : c.current.Resumes) :
    statement.discard c = c := by
  have hkinds : c.current.kind ≠ .eof ∧ c.current.kind ≠ .newline := by
    rcases h with h | h <;> rw [h] <;> decide
  rw [discard, dif_neg (mt Cursor.isAt_iff.mp hkinds.1),
    if_neg (mt isAt_newline_of_statement.mp hkinds.2),
    if_pos (isAtAny_statement_iff.mpr h)]

theorem discard_of_other {c : Cursor} (hend : c.current.kind ≠ .eof)
    (hline : c.current.kind ≠ .newline) (hresumes : ¬ c.current.Resumes) :
    statement.discard c = statement.discard c.advance := by
  rw [discard, dif_neg (mt Cursor.isAt_iff.mp hend),
    if_neg (mt isAt_newline_of_statement.mp hline),
    if_neg (mt isAtAny_statement_iff.mp hresumes)]

/-- Dropping goes on to the first place where reading may be taken up. -/
theorem discard_statement (c : Cursor) :
    ∃ dropped, c.Passes dropped (statement.discard c) ∧
      (∀ token ∈ dropped, ¬ token.Resumes) ∧
      (∀ token ∈ dropped.dropLast, token.kind ≠ .newline) ∧
      ((∃ token ∈ dropped.getLast?, token.kind = .newline) ∨
        (statement.discard c).current.Resumes ∨
        (statement.discard c).current.kind = .eof) := by
  fun_induction discard statement c with
  | case1 c hend =>
      exact ⟨[], Cursor.Passes.refl c, by simp, by simp,
        Or.inr (Or.inr (Cursor.isAt_iff.mp hend))⟩
  | case2 c hend hbreak =>
      have hnewline := isAt_newline_of_statement.mp hbreak
      refine ⟨[c.current], Cursor.passes_advance (by simp [hnewline]), ?_, by simp,
        Or.inl ⟨c.current, by simp, hnewline⟩⟩
      simp [Token.Resumes, hnewline]
  | case3 c hend hbreak hresume =>
      exact ⟨[], Cursor.Passes.refl c, by simp, by simp,
        Or.inr (Or.inl (isAtAny_statement_iff.mp hresume))⟩
  | case4 c hend hbreak hresume ih =>
      obtain ⟨dropped, hpass, hresumes, hnewline, hclose⟩ := ih
      have hcurrent : c.current.kind ≠ .newline := by
        intro h
        exact hbreak (isAt_newline_of_statement.mpr h)
      refine ⟨c.current :: dropped,
        (Cursor.passes_advance (mt Cursor.isAt_iff.mpr hend)).trans hpass, ?_, ?_, ?_⟩
      · intro token htoken
        rcases List.mem_cons.mp htoken with rfl | htoken
        · exact mt isAtAny_statement_iff.mpr hresume
        · exact hresumes token htoken
      · cases dropped with
        | nil => simp
        | cons next rest =>
            intro token htoken
            rcases List.mem_cons.mp htoken with rfl | htoken
            · exact hcurrent
            · exact hnewline token htoken
      · rcases hclose with ⟨token, htoken, hkind⟩ | hclose
        · refine Or.inl ⟨token, ?_, hkind⟩
          cases dropped with
          | nil => simp at htoken
          | cons next rest => simpa using htoken
        · exact Or.inr hclose

/-- Where nothing has to be dropped, dropping stays. -/
theorem recover_statement (c : Cursor) :
    (statement.recover c).2 = statement.discard c := by
  rw [recover]
  split
  · rename_i hend
    rw [discard, dif_pos hend]
  · rename_i hend
    split
    · rename_i hresume
      have hkind := isAtAny_statement_iff.mp hresume
      have hbreak : ¬ (statement.lineBreak && c.isAt .newline) = true := by
        intro hbreak
        have hnewline := isAt_newline_of_statement.mp hbreak
        simp [Token.Resumes, hnewline] at hkind
      rw [discard, dif_neg hend, if_neg hbreak, if_pos hresume]
    · rfl

/-- There is nothing left exactly at the end. -/
theorem recover_statement_eq_atEnd_iff (c : Cursor) :
    (statement.recover c).1 = some .atEnd ↔ c.pending = [] := by
  rw [← Cursor.isAt_eof_iff, recover]
  split
  · simp_all
  · split <;> simp_all

end Recovery

namespace Grammar

theorem skipSeparators_passes (c : Cursor) :
    ∃ separators : List (Terminal .newline),
      c.Passes (separators.map (·.token)) (skipSeparators c) ∧
        (skipSeparators c).current.kind ≠ .newline := by
  fun_induction skipSeparators c with
  | case1 c hnewline ih =>
      obtain ⟨separators, hpass, hkind⟩ := ih
      have hcurrent := Cursor.isAt_iff.mp hnewline
      exact ⟨⟨c.current, hcurrent⟩ :: separators,
        (Cursor.passes_advance (by simp [hcurrent])).trans hpass, hkind⟩
  | case2 c hnewline =>
      exact ⟨[], Cursor.Passes.refl c, mt Cursor.isAt_iff.mpr hnewline⟩

/-- At the end there are no line breaks to pass. -/
theorem skipSeparators_of_pending_nil {c : Cursor} (h : c.pending = []) :
    skipSeparators c = c := by
  have hkind : ¬ c.isAt .newline = true := by
    rw [Cursor.isAt_iff, Cursor.current_kind_eq_eof_iff.mpr h]
    decide
  rw [skipSeparators, dif_neg hkind]

/-- The cursor at the end of a round that started with reading a statement. -/
def roundEnd : Option Statement × Cursor → Cursor
  | (some _, c) => skipSeparators c
  | (none, c) => skipSeparators (Recovery.statement.discard c)

theorem round_statementList (c : Cursor) :
    statementList.round c =
      ((statement c).1,
        (statement c).1.isSome || decide ((statement c).2.pending ≠ []),
        roundEnd (statement c)) := by
  simp only [NodeList.round, statementList]
  cases statement c with
  | mk result c₁ =>
      cases result with
      | some read => rfl
      | none =>
          have hend := Recovery.recover_statement_eq_atEnd_iff c₁
          simp only [roundEnd, Recovery.recover_statement, Option.isSome_none,
            Bool.false_or, Prod.mk.injEq, true_and, and_true]
          by_cases hnil : c₁.pending = []
          · simp [hnil, hend.mpr hnil]
          · simp [hnil, mt hend.mp hnil]

theorem isDone_statementList_iff {c : Cursor} :
    statementList.isDone c = true ↔ c.pending = [] := by
  rw [← Cursor.isAt_eof_iff]
  simp [NodeList.isDone, statementList]

theorem read_statementList_of_pending_nil {c : Cursor} (h : c.pending = []) :
    statementList.read c = (.ok [], c) := by
  rw [NodeList.read, if_pos (isDone_statementList_iff.mpr h)]

end Grammar

end Autopilot
