import Autopilot.Cursor.Basic

/-!
# Passing tokens

A cursor moves by passing pending tokens, and the only other thing that happens to
it is that a remark is made.  `Cursor.Passes` says which tokens lie between two
cursors.  It fixes the later cursor, so that the moves of a reader can be put
together like lists.
-/

namespace Autopilot

/-- The remark on a token: it stands where the token stands and names it. -/
def Remark.on (remark : Remark) (token : Token) : Diagnostic :=
  remark.placed token.position
    (some (remark.message ++ ", got " ++ token.found)) none

/-- The diagnostics after one more has been made.  It is left out when it repeats
the place of the last one. -/
def Diagnostic.noted (ds : List Diagnostic) (d : Diagnostic) : List Diagnostic :=
  if ds.getLast?.any (·.position = d.position) then ds else ds ++ [d]

/-- A remark may be left out, but only beside another one. -/
theorem Diagnostic.noted_ne_nil (ds : List Diagnostic) (d : Diagnostic) :
    noted ds d ≠ [] := by
  unfold noted
  split
  · intro hnil
    simp_all
  · simp

/-- A remark at a new place is kept. -/
theorem Diagnostic.noted_of_forall_ne {ds : List Diagnostic} {d : Diagnostic}
    (h : ∀ made ∈ ds, made.position ≠ d.position) : noted ds d = ds ++ [d] := by
  unfold noted
  rw [if_neg]
  intro hlast
  obtain ⟨made, hmade, hsame⟩ := (Option.any_eq_true _ _).mp hlast
  exact h made (List.mem_of_getLast? hmade) (of_decide_eq_true hsame)

theorem Diagnostic.noted_of_last {ds : List Diagnostic} {last d : Diagnostic}
    (h : last.position = d.position) : noted (ds ++ [last]) d = ds ++ [last] := by
  simp [noted, h]

theorem Diagnostic.noted_of_last_ne {ds : List Diagnostic} {last d : Diagnostic}
    (h : last.position ≠ d.position) : noted (ds ++ [last]) d = ds ++ [last] ++ [d] := by
  simp [noted, h]

/-- Remarks at different places are all kept. -/
theorem Diagnostic.foldl_noted {made ds : List Diagnostic}
    (h : (made ++ ds).Pairwise fun a b => a.position ≠ b.position) :
    ds.foldl noted made = made ++ ds := by
  induction ds generalizing made with
  | nil => rw [List.foldl_nil, List.append_nil]
  | cons d ds ih =>
      have hbefore := (List.pairwise_append.mp h).2.2
      have hnoted := noted_of_forall_ne fun e he => hbefore e he d List.mem_cons_self
      rw [List.append_cons] at h
      rw [List.foldl_cons, hnoted, ih h, ← List.append_cons]

namespace Cursor

/-- The second cursor is the first one after some pending tokens. -/
structure Passes (c : Cursor) (used : List Token) (c' : Cursor) : Prop where
  pending : c.pending = used ++ c'.pending
  position : c'.position = c.position + used.length
  ending : c'.ending = c.ending
  diagnostics : c'.diagnostics = c.diagnostics

theorem Passes.refl (c : Cursor) : c.Passes [] c :=
  ⟨rfl, rfl, rfl, rfl⟩

theorem Passes.trans {c c₁ c₂ : Cursor} {used more : List Token}
    (h : c.Passes used c₁) (h' : c₁.Passes more c₂) :
    c.Passes (used ++ more) c₂ := by
  constructor
  · rw [h.pending, h'.pending, List.append_assoc]
  · rw [h'.position, h.position, List.length_append, Nat.add_assoc]
  · exact h'.ending.trans h.ending
  · exact h'.diagnostics.trans h.diagnostics

/-- A cursor with something pending stands at the first pending token. -/
theorem current_of_pending {c : Cursor} {token : Token} {rest : List Token}
    (h : c.pending = token :: rest) : c.current = token := by
  simp [current, h]

theorem current_of_pending_nil {c : Cursor} (h : c.pending = []) :
    c.current = c.ending := by
  simp [current, h]

theorem pending_eq_cons {c : Cursor} (h : c.current.kind ≠ .eof) :
    c.pending = c.current :: c.pending.tail := by
  cases hpending : c.pending with
  | nil =>
      rw [current_of_pending_nil hpending] at h
      exact absurd c.ending_kind h
  | cons token rest => rw [current_of_pending hpending, List.tail_cons]

theorem current_kind_eq_eof_iff {c : Cursor} :
    c.current.kind = .eof ↔ c.pending = [] := by
  rw [← isAt_eof_iff, isAt, decide_eq_true_iff]

theorem current_kind_ne_of_pending {c : Cursor} {token : Token} {rest : List Token}
    (h : c.pending = token :: rest) : token.kind ≠ .eof :=
  c.pending_kind_ne token (by simp [h])

/-- Any token but the end token is passed. -/
theorem passes_advance {c : Cursor} (h : c.current.kind ≠ .eof) :
    c.Passes [c.current] c.advance := by
  have hpending := pending_eq_cons h
  have hne : c.pending ≠ [] := by
    rw [hpending]
    exact List.cons_ne_nil _ _
  constructor
  · exact hpending
  · simp [advance, hne]
  · rfl
  · rfl

theorem isAt_iff {c : Cursor} {kind : TokenKind} :
    c.isAt kind = true ↔ c.current.kind = kind := by
  rw [isAt, decide_eq_true_iff]

theorem isAtAny_iff {c : Cursor} {kinds : List TokenKind} :
    c.isAtAny kinds = true ↔ c.current.kind ∈ kinds := by
  rw [isAtAny, List.contains_iff_mem]

theorem eat_of_kind {c : Cursor} {kind : TokenKind} (h : c.current.kind = kind) :
    c.eat kind = (some c.current, c.advance) := by
  rw [eat, if_pos (isAt_iff.mpr h)]

theorem eat_of_kind_ne {c : Cursor} {kind : TokenKind} (h : c.current.kind ≠ kind) :
    c.eat kind = (none, c) := by
  rw [eat, if_neg (mt isAt_iff.mp h)]

theorem expect_of_kind {c : Cursor} {kind : TokenKind} (h : c.current.kind = kind)
    (remark : Remark) : c.expect kind remark = (some c.current, c.advance) := by
  rw [expect, if_pos (isAt_iff.mpr h)]

theorem expect_of_kind_ne {c : Cursor} {kind : TokenKind} (h : c.current.kind ≠ kind)
    (remark : Remark) : c.expect kind remark = (none, c.complain remark) := by
  rw [expect, if_neg (mt isAt_iff.mp h)]

theorem passes_nil_iff {c c' : Cursor} : c.Passes [] c' ↔ c' = c := by
  constructor
  · intro h
    obtain ⟨hpending, hposition, hending, hdiagnostics⟩ := h
    cases c
    cases c'
    simp_all
  · rintro rfl
    exact Passes.refl c'

theorem passes_cons_iff {c c' : Cursor} {token : Token} {used : List Token} :
    c.Passes (token :: used) c' ↔
      c.current = token ∧ token.kind ≠ .eof ∧ c.advance.Passes used c' := by
  constructor
  · intro h
    have hcurrent := current_of_pending h.pending
    have hkind := current_kind_ne_of_pending h.pending
    subst hcurrent
    have hfirst := passes_advance hkind
    refine ⟨rfl, hkind, ?_, ?_, ?_, ?_⟩
    · rw [pending_advance, h.pending]
      rfl
    · rw [h.position, hfirst.position, List.length_cons, List.length_cons,
        List.length_nil]
      omega
    · rw [h.ending, hfirst.ending]
    · rw [h.diagnostics, hfirst.diagnostics]
  · rintro ⟨rfl, hkind, h⟩
    exact (passes_advance hkind).trans h

/-- Passing a list in two parts. -/
theorem passes_append_iff {c c' : Cursor} {front back : List Token} :
    c.Passes (front ++ back) c' ↔ ∃ c₁, c.Passes front c₁ ∧ c₁.Passes back c' := by
  constructor
  · intro h
    induction front generalizing c with
    | nil => exact ⟨c, Passes.refl c, h⟩
    | cons token front ih =>
        obtain ⟨hcurrent, hkind, hrest⟩ := passes_cons_iff.mp h
        obtain ⟨c₁, hfront, hback⟩ := ih hrest
        exact ⟨c₁, passes_cons_iff.mpr ⟨hcurrent, hkind, hfront⟩, hback⟩
  · rintro ⟨c₁, hfront, hback⟩
    exact hfront.trans hback

/-- Whatever comes first among the pending tokens can be passed. -/
theorem exists_passes {c : Cursor} {used rest : List Token}
    (h : c.pending = used ++ rest) : ∃ c', c.Passes used c' ∧ c'.pending = rest := by
  induction used generalizing c with
  | nil => exact ⟨c, Passes.refl c, h⟩
  | cons token used ih =>
      have hkind := current_kind_ne_of_pending h
      have hadvance : c.advance.pending = used ++ rest := by
        rw [pending_advance, h]
        rfl
      obtain ⟨c', hpass, hrest⟩ := ih hadvance
      exact ⟨c', passes_cons_iff.mpr ⟨current_of_pending h, hkind, hpass⟩, hrest⟩

/-- The ways of eating a token. -/
theorem eat_cases (c : Cursor) {kind : TokenKind} (hkind : kind ≠ .eof) :
    (c.current.kind = kind ∧ c.eat kind = (some c.current, c.advance) ∧
      c.Passes [c.current] c.advance) ∨
    (c.current.kind ≠ kind ∧ c.eat kind = (none, c)) := by
  by_cases h : c.current.kind = kind
  · exact Or.inl ⟨h, eat_of_kind h, passes_advance (h ▸ hkind)⟩
  · exact Or.inr ⟨h, eat_of_kind_ne h⟩

/-- The ways of expecting a token. -/
theorem expect_cases (c : Cursor) {kind : TokenKind} (hkind : kind ≠ .eof)
    (remark : Remark) :
    (c.current.kind = kind ∧ c.expect kind remark = (some c.current, c.advance) ∧
      c.Passes [c.current] c.advance) ∨
    (c.current.kind ≠ kind ∧ c.expect kind remark = (none, c.complain remark)) := by
  by_cases h : c.current.kind = kind
  · exact Or.inl ⟨h, expect_of_kind h remark, passes_advance (h ▸ hkind)⟩
  · exact Or.inr ⟨h, expect_of_kind_ne h remark⟩

theorem passes_of_eat {c c' : Cursor} {kind : TokenKind} {token : Token}
    (h : c.eat kind = (some token, c')) (hkind : kind ≠ .eof) :
    token.kind = kind ∧ c.Passes [token] c' := by
  rcases c.eat_cases hkind with ⟨hat, heat, hpass⟩ | ⟨-, heat⟩
  · obtain ⟨htoken, rfl⟩ := Prod.mk.inj (heat.symm.trans h)
    obtain rfl := Option.some.inj htoken
    exact ⟨hat, hpass⟩
  · simp [heat] at h

theorem eq_of_eat_none {c c' : Cursor} {kind : TokenKind}
    (h : c.eat kind = (none, c')) : c' = c := by
  unfold eat at h
  split at h
  · simp at h
  · exact (Prod.mk.inj h).2.symm

theorem diagnostics_report (c : Cursor) (d : Diagnostic) :
    (c.report d).diagnostics = Diagnostic.noted c.diagnostics d := by
  by_cases h : c.diagnostics.getLast?.any (·.position = d.position)
  · rw [report, if_pos h, Diagnostic.noted, if_pos h]
  · rw [report, if_neg h, Diagnostic.noted, if_neg h]

theorem diagnostics_complain (c : Cursor) (remark : Remark) :
    (c.complain remark).diagnostics =
      Diagnostic.noted c.diagnostics (remark.on c.current) :=
  diagnostics_report c _

@[simp]
theorem ending_complain (c : Cursor) (remark : Remark) :
    (c.complain remark).ending = c.ending :=
  ending_report c _

@[simp]
theorem position_complain (c : Cursor) (remark : Remark) :
    (c.complain remark).position = c.position :=
  position_report c _

/-- A list of tokens that closes with an end token gives a cursor at its start, which
sees the tokens up to the first end token. -/
theorem ofTokens?_eq_ok {body behind : List Token} {first : Token}
    (hbody : ∀ token ∈ body, token.kind ≠ .eof) (hfirst : first.kind = .eof)
    (hlast : ∃ last ∈ (body ++ first :: behind).getLast?, last.kind = .eof) :
    ofTokens? (body ++ first :: behind) = .ok ⟨0, body, first, [], hbody, hfirst⟩ := by
  have hfind : (body ++ first :: behind).find? (·.kind = .eof) = some first := by
    have hnone : body.find? (·.kind = .eof) = none := by simpa using hbody
    simp [List.find?_append, hnone, hfirst]
  have htake : (body ++ first :: behind).takeWhile (·.kind ≠ .eof) = body := by
    rw [List.takeWhile_append_of_pos (by simpa using hbody)]
    simp [hfirst]
  have hclosed : (body ++ first :: behind).getLast?.any (·.kind = .eof) = true := by
    obtain ⟨last, hmem, hkind⟩ := hlast
    exact (Option.any_eq_true _ _).mpr ⟨last, hmem, decide_eq_true hkind⟩
  unfold ofTokens?
  split
  · rename_i found hfound
    obtain rfl := Option.some.inj (hfind.symm.trans hfound)
    rw [if_pos hclosed]
    simp only [htake]
  · rename_i hnone
    simp [hfind] at hnone

/-- A list of tokens whose only end token is the last one gives a cursor at its
start. -/
theorem exists_ofTokens? {body : List Token} {ending : Token}
    (hbody : ∀ token ∈ body, token.kind ≠ .eof) (hending : ending.kind = .eof) :
    ∃ c, ofTokens? (body ++ [ending]) = .ok c ∧ c.position = 0 ∧ c.pending = body ∧
      c.ending = ending ∧ c.diagnostics = [] :=
  ⟨_, ofTokens?_eq_ok hbody hending ⟨ending, by simp, hending⟩, rfl, rfl, rfl, rfl⟩

end Cursor

end Autopilot
