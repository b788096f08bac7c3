import Autopilot.Proofs.Grammar.Segment

/-!
# Dropped tokens

Where every segment fits the one after it, the remarks on the dropped ones stand one
behind the other, no `IF` or `ELSE` is hidden inside a segment, and there are hardly
more dropped segments than tokens that end a line or start a statement.
-/

namespace Autopilot

/-- Whether a token ends a line or starts a statement. -/
def Token.isBoundary (token : Token) : Bool :=
  token.kind ∈ [.newline, .ifWord, .elseWord]

theorem Token.isBoundary_of_newline {token : Token} (h : token.kind = .newline) :
    token.isBoundary = true := by
  simp [isBoundary, h]

theorem Token.isBoundary_of_resumes {token : Token} (h : token.Resumes) :
    token.isBoundary = true := by
  rcases h with h | h <;> simp [isBoundary, h]

namespace Segment

theorem tokens_ne_nil {next : Token} {segment : Segment} (h : segment.Fits next) :
    segment.tokens ≠ [] := by
  cases segment with
  | separator newline => simp [tokens]
  | statement tree =>
      obtain ⟨rest, hcons, -⟩ := tree.exists_tokens_eq_cons
      rw [tokens, hcons]
      exact List.cons_ne_nil _ _
  | dropped tokens found remark => exact h.ne_nil

/-- Reading is taken up at the first token of a segment or at none of them. -/
theorem not_resumes_of_mem_tail {next : Token} {segment : Segment}
    (h : segment.Fits next) : ∀ token ∈ segment.tokens.tail, ¬ token.Resumes := by
  cases segment with
  | separator newline => simp [tokens]
  | statement tree =>
      obtain ⟨rest, hcons, hinner⟩ := tree.exists_tokens_eq_cons
      rw [tokens, hcons]
      intro token htoken
      exact (Token.isInner_iff.mp (hinner token htoken)).2
  | dropped tokens found remark => exact h.resumes_first

section Ending

variable {ending : Token} {segments : List Segment}

theorem eq_next_cons (ending : Token) (segments : List Segment) :
    segments.flatMap tokens ++ [ending] =
      next ending segments :: (segments.flatMap tokens ++ [ending]).tail := by
  rw [next]
  cases segments.flatMap tokens with
  | nil => rfl
  | cons first rest => rfl

theorem next_mem (ending : Token) (segments : List Segment) :
    next ending segments ∈ segments.flatMap tokens ++ [ending] := by
  rw [eq_next_cons]
  exact List.mem_cons_self

theorem mem_tail_of_mem {front back : List Token} {token : Token} (hne : front ≠ [])
    (h : token ∈ back) : token ∈ (front ++ back).tail := by
  rw [List.tail_append_of_ne_nil hne]
  exact List.mem_append_right _ h

/-- A remark is on one of the tokens.  If that token is one on which reading is taken
up, there are others before it. -/
theorem exists_found (hfit : AllFit ending segments) {d : Diagnostic}
    (hd : d ∈ segments.filterMap diagnostic?) :
    ∃ remark found, d = Remark.on remark found ∧
      found ∈ segments.flatMap tokens ++ [ending] ∧
      (found.Resumes → found ∈ (segments.flatMap tokens ++ [ending]).tail) := by
  induction segments with
  | nil => cases hd
  | cons segment rest ih =>
      obtain ⟨hfirst, hrest⟩ := hfit
      have hne := tokens_ne_nil hfirst
      rw [List.flatMap_cons, List.append_assoc]
      obtain ⟨made, hmade, hdiagnostic⟩ := List.mem_filterMap.mp hd
      rcases List.mem_cons.mp hmade with rfl | hlater
      · cases made with
        | separator newline => cases hdiagnostic
        | statement tree => cases hdiagnostic
        | dropped lost found remark =>
            obtain rfl := Option.some.inj hdiagnostic
            refine ⟨remark, found, rfl, ?_⟩
            rcases hfirst.found_mem with ⟨hmem, hresumes⟩ | ⟨rfl, -⟩
            · exact ⟨List.mem_append_left _ hmem, fun h => absurd h hresumes⟩
            · have hnext := next_mem ending rest
              exact ⟨List.mem_append_right _ hnext,
                fun _ => mem_tail_of_mem hne hnext⟩
      · obtain ⟨remark, found, rfl, hmem, -⟩ :=
          ih hrest (List.mem_filterMap.mpr ⟨made, hlater, hdiagnostic⟩)
        exact ⟨remark, found, rfl, List.mem_append_right _ hmem,
          fun _ => mem_tail_of_mem hne hmem⟩

/-- Without tokens there are no segments. -/
theorem eq_nil_of_next_kind (hfit : AllFit ending segments)
    (hkind : ∀ token ∈ segments.flatMap tokens, token.kind ≠ .eof)
    (h : (next ending segments).kind = .eof) : segments = [] := by
  cases segments with
  | nil => rfl
  | cons segment rest =>
      obtain ⟨first, more, hcons⟩ :=
        List.exists_cons_of_ne_nil (tokens_ne_nil hfit.1)
      have hnext : next ending (segment :: rest) = first := by
        simp [next, List.flatMap_cons, hcons]
      rw [hnext] at h
      refine absurd h (hkind first ?_)
      simp [List.flatMap_cons, hcons]

/-- The remarks stand in the order of the text, no two of them at one place. -/
theorem pairwise_diagnostics (hfit : AllFit ending segments)
    (hkind : ∀ token ∈ segments.flatMap tokens, token.kind ≠ .eof)
    (hplaces : (segments.flatMap tokens ++ [ending]).Pairwise
      fun a b => a.position < b.position) :
    (segments.filterMap diagnostic?).Pairwise
      fun a b => a.position < b.position := by
  induction segments with
  | nil => exact List.Pairwise.nil
  | cons segment rest ih =>
      obtain ⟨hfirst, hrest⟩ := hfit
      rw [List.flatMap_cons, List.append_assoc] at hplaces
      obtain ⟨-, hlater, hbetween⟩ := List.pairwise_append.mp hplaces
      have hlaterKind : ∀ token ∈ rest.flatMap tokens, token.kind ≠ .eof := by
        intro token htoken
        apply hkind
        rw [List.flatMap_cons]
        exact List.mem_append_right _ htoken
      have hothers := ih hrest hlaterKind hlater
      cases segment with
      | separator newline => exact hothers
      | statement tree => exact hothers
      | dropped lost found remark =>
          apply List.Pairwise.cons _ hothers
          intro d hd
          obtain ⟨remark', found', rfl, hmem, hbehind⟩ := exists_found hrest hd
          rcases hfirst.found_mem with ⟨hlost, -⟩ | ⟨rfl, hresumes | hend⟩
          · exact hbetween found hlost found' hmem
          · -- The token behind the dropped ones starts a segment, and the next
            -- remark is on a later token.
            have htail : found' ∈ (rest.flatMap tokens ++ [ending]).tail := by
              have hcases := hmem
              rw [eq_next_cons] at hcases
              rcases List.mem_cons.mp hcases with hsame | htail
              · exact hbehind (hsame ▸ hresumes)
              · exact htail
            rw [eq_next_cons] at hlater
            exact (List.pairwise_cons.mp hlater).1 found' htail
          · rw [eq_nil_of_next_kind hrest hlaterKind hend] at hd
            cases hd

theorem next_cons {segment : Segment} {first : Token} {more : List Token}
    (h : segment.tokens = first :: more) (rest : List Segment) :
    next ending (segment :: rest) = first := by
  simp [next, List.flatMap_cons, h]

theorem countP_pos_of_last {lost : List Token}
    (h : ∃ token ∈ lost.getLast?, token.kind = .newline) :
    0 < lost.countP Token.isBoundary := by
  obtain ⟨token, htoken, hkind⟩ := h
  exact List.countP_pos_iff.mpr
    ⟨token, List.mem_of_getLast? htoken, Token.isBoundary_of_newline hkind⟩

/-- A piece that starts a statement and ends a line has two tokens. -/
theorem last_of_resumes {lost more : List Token} {first : Token}
    (hcons : lost = first :: more) (hresumes : first.Resumes)
    (h : ∃ token ∈ lost.getLast?, token.kind = .newline) :
    ∃ token ∈ more.getLast?, token.kind = .newline := by
  obtain ⟨token, htoken, hkind⟩ := h
  refine ⟨token, ?_, hkind⟩
  rw [hcons] at htoken
  cases more with
  | nil =>
      obtain rfl : first = token := by simpa using htoken
      rcases hresumes with h | h <;> rw [hkind] at h <;> cases h
  | cons second more => simpa using htoken

/-- There is at most one remark more than tokens that end a line or start a
statement, and none more if reading is taken up in front. -/
theorem length_diagnostics_le (hfit : AllFit ending segments)
    (hkind : ∀ token ∈ segments.flatMap tokens, token.kind ≠ .eof) :
    (segments.filterMap diagnostic?).length ≤
        1 + (segments.flatMap tokens).countP Token.isBoundary ∧
      ((next ending segments).Resumes →
        (segments.filterMap diagnostic?).length ≤
          (segments.flatMap tokens).countP Token.isBoundary) := by
  induction segments with
  | nil => simp
  | cons segment rest ih =>
      obtain ⟨hfirst, hrest⟩ := hfit
      rw [List.flatMap_cons] at hkind ⊢
      have hlaterKind : ∀ token ∈ rest.flatMap tokens, token.kind ≠ .eof := by
        intro token htoken
        exact hkind token (List.mem_append_right _ htoken)
      obtain ⟨hany, hstart⟩ := ih hrest hlaterKind
      obtain ⟨first, more, hcons⟩ := List.exists_cons_of_ne_nil (tokens_ne_nil hfirst)
      have hcount : first.Resumes → segment.tokens.countP Token.isBoundary =
          more.countP Token.isBoundary + 1 := by
        intro hresumes
        rw [hcons, List.countP_cons_of_pos (Token.isBoundary_of_resumes hresumes)]
      rw [next_cons hcons, List.countP_append]
      have hread : segment.diagnostic? = none →
          ((segment :: rest).filterMap diagnostic?).length ≤
              1 + (segment.tokens.countP Token.isBoundary +
                (rest.flatMap tokens).countP Token.isBoundary) ∧
            (first.Resumes → ((segment :: rest).filterMap diagnostic?).length ≤
              segment.tokens.countP Token.isBoundary +
                (rest.flatMap tokens).countP Token.isBoundary) := by
        intro hnone
        rw [List.filterMap_cons_none hnone]
        constructor
        · omega
        · intro hresumes
          have := hcount hresumes
          omega
      cases segment with
      | separator newline => exact hread rfl
      | statement tree => exact hread rfl
      | dropped lost found remark =>
          have hlength : ((dropped lost found remark :: rest).filterMap
              diagnostic?).length = (rest.filterMap diagnostic?).length + 1 := rfl
          rw [hlength]
          rcases hfirst.closed with hnewline | hresumes | hend
          · have hpos := countP_pos_of_last hnewline
            constructor
            · rw [tokens]
              omega
            · intro hresumes
              have := countP_pos_of_last (last_of_resumes hcons hresumes hnewline)
              have := hcount hresumes
              omega
          · have := hstart hresumes
            constructor
            · omega
            · intro hresumes
              have := hcount hresumes
              omega
          · rw [eq_nil_of_next_kind hrest hlaterKind hend]
            constructor
            · simp
            · intro hresumes
              have := hcount hresumes
              simp only [List.filterMap_nil, List.length_nil]
              omega

/-- A token on which reading is taken up is the first one of its segment. -/
theorem exists_of_resumes (hfit : AllFit ending segments) {front back : List Token}
    {token : Token} (hsplit : segments.flatMap tokens = front ++ token :: back)
    (hresumes : token.Resumes) :
    ∃ before segment after more, segments = before ++ segment :: after ∧
      before.flatMap tokens = front ∧ segment.tokens = token :: more := by
  induction segments generalizing front with
  | nil => simp at hsplit
  | cons segment rest ih =>
      obtain ⟨hfirst, hrest⟩ := hfit
      rw [List.flatMap_cons] at hsplit
      obtain ⟨first, more, hcons⟩ := List.exists_cons_of_ne_nil (tokens_ne_nil hfirst)
      cases front with
      | nil =>
          rw [hcons] at hsplit
          obtain rfl : first = token := (List.cons.inj hsplit).1
          exact ⟨[], segment, rest, more, rfl, rfl, hcons⟩
      | cons start front =>
          have hlater : ∃ later, start :: front = segment.tokens ++ later ∧
              rest.flatMap tokens = later ++ token :: back := by
            rcases List.append_eq_append_iff.mp hsplit with
              hlater | ⟨inside, hinside, hback⟩
            · exact hlater
            · cases inside with
              | nil => exact ⟨[], by simpa using hinside.symm, hback.symm⟩
              | cons other inside =>
                  obtain rfl : token = other := (List.cons.inj hback).1
                  refine absurd hresumes (not_resumes_of_mem_tail hfirst token ?_)
                  rw [hinside]
                  simp
          obtain ⟨later, hfront, hrestSplit⟩ := hlater
          obtain ⟨before, found, after, more, hsegments, hbefore, hmore⟩ :=
            ih hrest hrestSplit
          refine ⟨segment :: before, found, after, more, ?_, ?_, hmore⟩
          · rw [hsegments]
            rfl
          · rw [List.flatMap_cons, hbefore, hfront]

end Ending

end Segment

end Autopilot
