import Autopilot.Proofs.Grammar.Rounds

/-!
# Segments

Reading a script cuts its tokens into segments: line breaks, the tokens of
statements, and tokens that were dropped, the latter with the one remark that was
made on them.  `read_statementList_segments` says so of the list of statements and
`exists_segments_script` of a whole script, at any cursor.
-/

namespace Autopilot

/-- A piece of the tokens of a script.  A dropped piece has the token on which the
remark was made. -/
inductive Segment where
  | separator (newline : Terminal .newline)
  | statement (tree : StatementTree)
  | dropped (tokens : List Token) (found : Token) (remark : Remark)

namespace Segment

def tokens : Segment → List Token
  | separator newline => [newline.token]
  | statement tree => tree.tokens
  | dropped tokens _ _ => tokens

def statement? : Segment → Option Statement
  | statement tree => some tree.statement
  | _ => none

def diagnostic? : Segment → Option Diagnostic
  | dropped _ found remark => some (remark.on found)
  | _ => none

/-- What is known of dropped tokens with the token found amiss and the token after
them.  A token on which reading is taken up is dropped in front only, and is then not
the one found amiss. -/
structure IsLost (tokens : List Token) (found next : Token) : Prop where
  ne_nil : tokens ≠ []
  newline_last : ∀ token ∈ tokens.dropLast, token.kind ≠ .newline
  resumes_first : ∀ token ∈ tokens.tail, ¬ token.Resumes
  closed : (∃ token ∈ tokens.getLast?, token.kind = .newline) ∨ next.Resumes ∨
    next.kind = .eof
  found_mem : (found ∈ tokens ∧ ¬ found.Resumes) ∨
    (found = next ∧ (next.Resumes ∨ next.kind = .eof))

/-- Whether a segment may stand before a token. -/
def Fits (next : Token) : Segment → Prop
  | dropped tokens found _ => IsLost tokens found next
  | _ => True

/-- The first token of some segments, or the end token. -/
def next (ending : Token) (segments : List Segment) : Token :=
  (segments.flatMap tokens).head?.getD ending

/-- Whether every segment fits the one after it. -/
def AllFit (ending : Token) : List Segment → Prop
  | [] => True
  | segment :: rest => segment.Fits (next ending rest) ∧ AllFit ending rest

/-- The segments of line breaks. -/
def separators (newlines : List (Terminal .newline)) : List Segment :=
  newlines.map separator

@[simp]
theorem flatMap_tokens_separators (newlines : List (Terminal .newline)) :
    (separators newlines).flatMap tokens = newlines.map (·.token) := by
  induction newlines with
  | nil => rfl
  | cons newline newlines ih =>
      rw [separators, List.map_cons, List.flatMap_cons, ← separators, ih]
      rfl

@[simp]
theorem filterMap_statement?_separators (newlines : List (Terminal .newline)) :
    (separators newlines).filterMap statement? = [] := by
  simp [separators, statement?]

@[simp]
theorem filterMap_diagnostic?_separators (newlines : List (Terminal .newline)) :
    (separators newlines).filterMap diagnostic? = [] := by
  simp [separators, diagnostic?]

theorem allFit_separators_append {ending : Token} {rest : List Segment}
    (newlines : List (Terminal .newline)) (h : AllFit ending rest) :
    AllFit ending (separators newlines ++ rest) := by
  induction newlines with
  | nil => exact h
  | cons newline newlines ih => exact ⟨trivial, ih⟩

end Segment

namespace Grammar

open Segment

/-- What the segments of a round say about it: they are the tokens between the two
cursors, with what was read and the remark that was made. -/
structure Accounts (c : Cursor) (result : Option Statement) (c' : Cursor)
    (segments : List Segment) : Prop where
  pending : c.pending = segments.flatMap tokens ++ c'.pending
  position : c'.position = c.position + (segments.flatMap tokens).length
  ending : c'.ending = c.ending
  statements : segments.filterMap statement? = result.toList
  diagnostics : c'.diagnostics =
    (segments.filterMap diagnostic?).foldl Diagnostic.noted c.diagnostics
  ne_nil : segments.flatMap tokens ≠ []
  fits : ∀ rest, rest.flatMap tokens = c'.pending → AllFit c.ending rest →
    AllFit c.ending (segments ++ rest)

theorem next_of_flatMap_eq {c : Cursor} {segments : List Segment}
    (h : segments.flatMap tokens = c.pending) :
    next c.ending segments = c.current := by
  rw [next, h]
  rfl

/-- A statement that is read, and the line breaks behind it. -/
theorem accounts_of_read {c c₁ : Cursor} {tree : StatementTree}
    (hpass : c.Passes tree.tokens c₁) :
    ∃ segments, Accounts c (some tree.statement) (skipSeparators c₁) segments := by
  obtain ⟨newlines, hskip, -⟩ := skipSeparators_passes c₁
  have hall := hpass.trans hskip
  refine ⟨.statement tree :: separators newlines, ?_⟩
  have htokens : (Segment.statement tree :: separators newlines).flatMap tokens =
      tree.tokens ++ newlines.map (·.token) := by
    rw [List.flatMap_cons, flatMap_tokens_separators]
    rfl
  constructor
  · rw [htokens]
    exact hall.pending
  · rw [htokens]
    exact hall.position
  · exact hall.ending
  · simp [statement?]
  · have hnone : (Segment.statement tree :: separators newlines).filterMap
        diagnostic? = [] := by
      rw [List.filterMap_cons, filterMap_diagnostic?_separators]
      rfl
    rw [hnone]
    exact hall.diagnostics
  · obtain ⟨rest, hcons, -⟩ := tree.exists_tokens_eq_cons
    rw [htokens, hcons]
    simp
  · intro rest _ hrest
    exact ⟨trivial, allFit_separators_append newlines hrest⟩

/-- The tokens in which the reader got stuck and those dropped after them make up a
lost piece. -/
theorem isLost_append {c c₁ c₂ : Cursor} {used dropped : List Token}
    (hne : c.pending ≠ []) (hused : c.Passes used c₁)
    (hline : ∀ token ∈ used, token.kind ≠ .newline) (hinner : AreInner used.tail)
    (hstarted : used = [] → ¬ c.current.Resumes)
    (hdropped : c₁.pending = dropped ++ c₂.pending) (hending : c₂.ending = c₁.ending)
    (hresumes : ∀ token ∈ dropped, ¬ token.Resumes)
    (hnewline : ∀ token ∈ dropped.dropLast, token.kind ≠ .newline)
    (hclosed : (∃ token ∈ dropped.getLast?, token.kind = .newline) ∨
      c₂.current.Resumes ∨ c₂.current.kind = .eof) :
    IsLost (used ++ dropped) c₁.current c₂.current := by
  cases hcases : dropped with
  | nil =>
      subst hcases
      have hsame : c₁.current = c₂.current := by
        rw [Cursor.current, Cursor.current, hdropped, List.nil_append, hending]
      have hnext : c₂.current.Resumes ∨ c₂.current.kind = .eof := by
        simpa using hclosed
      have husedNe : used ≠ [] := by
        intro hnil
        subst hnil
        have hcurrent : c.current = c₁.current := by
          have hpending : c.pending = c₁.pending := hused.pending
          rw [Cursor.current, Cursor.current, hpending, hused.ending]
        rw [← hsame, ← hcurrent] at hnext
        rcases hnext with hnext | hnext
        · exact hstarted rfl hnext
        · exact hne (Cursor.current_kind_eq_eof_iff.mp hnext)
      rw [List.append_nil]
      constructor
      · exact husedNe
      · intro token htoken
        exact hline token ((List.dropLast_sublist used).subset htoken)
      · intro token htoken
        exact (Token.isInner_iff.mp (hinner token htoken)).2
      · exact Or.inr hnext
      · exact Or.inr ⟨hsame, hnext⟩
  | cons first rest =>
      rw [← hcases]
      have hdroppedNe : dropped ≠ [] := by simp [hcases]
      constructor
      · simp [hcases]
      · rw [List.dropLast_append_of_ne_nil hdroppedNe]
        intro token htoken
        rcases List.mem_append.mp htoken with htoken | htoken
        · exact hline token htoken
        · exact hnewline token htoken
      · intro token htoken
        cases used with
        | nil => exact hresumes token (List.mem_of_mem_tail htoken)
        | cons start used =>
            rcases List.mem_append.mp htoken with htoken | htoken
            · exact (Token.isInner_iff.mp (hinner token htoken)).2
            · exact hresumes token htoken
      · rcases hclosed with ⟨token, htoken, hkind⟩ | hclosed
        · refine Or.inl ⟨token, ?_, hkind⟩
          rw [Option.mem_def] at htoken
          simp [htoken]
        · exact Or.inr hclosed
      · have hcurrent : c₁.current = first := by
          rw [hcases, List.cons_append] at hdropped
          exact Cursor.current_of_pending hdropped
        have hmem : c₁.current ∈ dropped := by simp [hcurrent, hcases]
        exact Or.inl ⟨List.mem_append_right used hmem, hresumes _ hmem⟩

/-- Tokens that could not be read, those dropped after them and the line breaks
behind. -/
theorem accounts_of_stuck {c c₁ : Cursor} {used : List Token} (remark : Remark)
    (hne : c.pending ≠ []) (hused : c.Passes used c₁)
    (hline : ∀ token ∈ used, token.kind ≠ .newline) (hinner : AreInner used.tail)
    (hstarted : used = [] → ¬ c.current.Resumes) :
    ∃ segments, Accounts c none
      (skipSeparators (Recovery.statement.discard (c₁.complain remark))) segments := by
  obtain ⟨dropped, hdrop, hresumes, hnewline, hclosed⟩ :=
    Recovery.discard_statement (c₁.complain remark)
  generalize Recovery.statement.discard (c₁.complain remark) = c₂ at *
  obtain ⟨newlines, hskip, -⟩ := skipSeparators_passes c₂
  have hpending : c₁.pending = dropped ++ c₂.pending := by
    simpa using hdrop.pending
  have hending : c₂.ending = c₁.ending := by simpa using hdrop.ending
  have hlost : IsLost (used ++ dropped) c₁.current c₂.current :=
    isLost_append hne hused hline hinner hstarted hpending hending hresumes hnewline
      hclosed
  refine ⟨.dropped (used ++ dropped) c₁.current remark :: separators newlines, ?_⟩
  have htokens : (Segment.dropped (used ++ dropped) c₁.current remark ::
      separators newlines).flatMap tokens =
        used ++ (dropped ++ newlines.map (·.token)) := by
    rw [List.flatMap_cons, flatMap_tokens_separators, tokens, List.append_assoc]
  constructor
  · rw [htokens, hused.pending, hpending, hskip.pending]
    simp only [List.append_assoc]
  · rw [htokens, hskip.position, hdrop.position, Cursor.position_complain,
      hused.position]
    simp only [List.length_append, Nat.add_assoc]
  · rw [hskip.ending, hending, hused.ending]
  · rw [List.filterMap_cons, filterMap_statement?_separators]
    rfl
  · have hone : (Segment.dropped (used ++ dropped) c₁.current remark ::
        separators newlines).filterMap diagnostic? = [remark.on c₁.current] := by
      rw [List.filterMap_cons, filterMap_diagnostic?_separators]
      rfl
    rw [hone, hskip.diagnostics, hdrop.diagnostics, Cursor.diagnostics_complain,
      hused.diagnostics]
    rfl
  · rw [htokens, ← List.append_assoc]
    intro hnil
    exact hlost.ne_nil (List.append_eq_nil_iff.mp hnil).1
  · intro rest hrest hfit
    have hnext : next c.ending (separators newlines ++ rest) = c₂.current := by
      rw [← hused.ending, ← hending]
      apply next_of_flatMap_eq
      rw [List.flatMap_append, flatMap_tokens_separators, hrest, hskip.pending]
    have hfits : Fits (next c.ending (separators newlines ++ rest))
        (.dropped (used ++ dropped) c₁.current remark) := by
      rw [hnext]
      exact hlost
    exact ⟨hfits, allFit_separators_append newlines hfit⟩

/-- Every round is accounted for by segments. -/
theorem accounts_round {c : Cursor} (hne : c.pending ≠ []) :
    ∃ segments,
      Accounts c (statement c).1 (roundEnd (statement c)) segments := by
  have houtcome := statement_outcome c
  generalize statement c = result at houtcome
  cases houtcome with
  | read tree c₁ passes => exact accounts_of_read passes
  | stuck used remark c₁ passes one_line inner started =>
      apply accounts_of_stuck remark hne passes one_line inner
      intro hnil
      rw [Token.Resumes, not_or]
      exact started hnil

theorem Accounts.length_pending_lt {c c' : Cursor} {result : Option Statement}
    {segments : List Segment} (h : Accounts c result c' segments) :
    c'.pending.length < c.pending.length := by
  have hlength := congrArg List.length h.pending
  have hpos := List.length_pos_iff.mpr h.ne_nil
  rw [List.length_append] at hlength
  omega

/-- A round that ends at the end has nothing to go on with. -/
theorem pending_roundEnd_of_none {c : Cursor} (h : c.pending = []) :
    (roundEnd (none, c)).pending = [] := by
  obtain ⟨dropped, hdrop, -⟩ := Recovery.discard_statement c
  obtain ⟨newlines, hskip, -⟩ :=
    skipSeparators_passes (Recovery.statement.discard c)
  have hall := (hdrop.trans hskip).pending
  rw [h] at hall
  exact (List.append_eq_nil_iff.mp hall.symm).2

/-- The list of statements goes on after every round, up to the end. -/
theorem read_statementList {c : Cursor} (hne : c.pending ≠ []) :
    statementList.read c =
      ((statementList.read (roundEnd (statement c))).1.map
          ((statement c).1.toList ++ ·),
        (statementList.read (roundEnd (statement c))).2) := by
  obtain ⟨segments, haccounts⟩ := accounts_round hne
  have hlt := haccounts.length_pending_lt
  rw [NodeList.read, if_neg (mt isDone_statementList_iff.mp hne),
    round_statementList]
  generalize statement c = result at hlt
  obtain ⟨read, c₁⟩ := result
  by_cases hend : (roundEnd (read, c₁)).pending = []
  · have hdone := isDone_statementList_iff.mpr hend
    rw [read_statementList_of_pending_nil hend]
    cases read.isSome || decide (c₁.pending ≠ []) with
    | false => simp [Except.map]
    | true => simp [hdone, Except.map]
  · have hdone := mt isDone_statementList_iff.mp hend
    have hgo : (read.isSome || decide (c₁.pending ≠ [])) = true := by
      cases read with
      | some read => rfl
      | none => simpa using mt pending_roundEnd_of_none hend
    simp only [hgo]
    rw [if_neg hdone, dif_pos hlt]

/-- The list of statements is read to the end, and its segments account for all
tokens, statements and remarks. -/
theorem read_statementList_segments (c : Cursor) :
    ∃ segments c',
      statementList.read c = (.ok (segments.filterMap statement?), c') ∧
      segments.flatMap tokens = c.pending ∧ AllFit c.ending segments ∧
      c'.pending = [] ∧ c'.ending = c.ending ∧
      c'.position = c.position + c.pending.length ∧
      c'.diagnostics =
        (segments.filterMap diagnostic?).foldl Diagnostic.noted c.diagnostics := by
  induction hlength : c.pending.length using Nat.strongRecOn generalizing c with
  | ind n ih =>
      by_cases hne : c.pending = []
      · refine ⟨[], c, read_statementList_of_pending_nil hne, ?_, trivial, hne, rfl,
          ?_, rfl⟩
        · rw [hne]
          rfl
        · rw [hne] at hlength
          simp [← hlength]
      · obtain ⟨front, hround⟩ := accounts_round hne
        have hshorter : (roundEnd (statement c)).pending.length < n := by
          rw [← hlength]
          exact hround.length_pending_lt
        obtain ⟨back, c', hread, htokens, hfit, hpending, hending, hposition,
          hdiagnostics⟩ := ih _ hshorter (roundEnd (statement c)) rfl
        rw [hround.ending] at hfit hending
        refine ⟨front ++ back, c', ?_, ?_, hround.fits back htokens hfit, hpending,
          hending, ?_, ?_⟩
        · rw [read_statementList hne, hread, List.filterMap_append,
            hround.statements]
          rfl
        · rw [List.flatMap_append, htokens, hround.pending]
        · rw [hposition, hround.position, ← hlength, hround.pending,
            List.length_append, Nat.add_assoc]
        · rw [hdiagnostics, hround.diagnostics, List.filterMap_append,
            List.foldl_append]

end Grammar

end Autopilot
